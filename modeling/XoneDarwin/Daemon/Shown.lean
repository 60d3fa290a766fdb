import XoneDarwin.Daemon.Descriptor
import XoneDarwin.Daemon.Gamepads
import XoneDarwin.Daemon.Isolation

/-!
# What a gamepad shows

While a controller stays connected its slot shows the input and the state of the guide
button that it reported last, whatever came before and whatever other controllers do.
A host that reads the report finds exactly that, as far as the descriptor's ranges go.
-/

namespace XoneDarwin

open Machine (bitAt lastOf run)
open Machine.Hid

/-! ## Pads -/

def PadEvent.input? : PadEvent → Option GipInput
  | .input g => some g
  | _ => none

def PadEvent.guide? : PadEvent → Option Bool
  | .guide pressed => some pressed
  | _ => none

namespace HidReport

theorem eq_of_bits {report other : HidReport}
    (hbits : ∀ k, bitAt report.buttons k = bitAt other.buttons k)
    (hrest : { report with buttons := other.buttons } = other) : report = other := by
  have hword : report.buttons = other.buttons := Machine.bitAt_ext fun k _ => hbits k
  rw [← hrest, ← hword]

@[simp] theorem withGuide_withGuide (report : HidReport) (pressed later : Bool) :
    (report.withGuide pressed).withGuide later = report.withGuide later := by
  refine eq_of_bits (fun k => ?_) rfl
  rw [bitAt_withGuide, bitAt_withGuide, bitAt_withGuide]
  split <;> rfl

/-- A report that shows the guide button already. -/
theorem withGuide_guide (report : HidReport) : report.withGuide report.guide = report := by
  refine eq_of_bits (fun k => ?_) rfl
  rw [bitAt_withGuide]
  split
  next hk => rw [hk]; rfl
  next => rfl

end HidReport

/-- The guide flag may as well be set afterwards. -/
theorem gipToHid_withGuide (g : GipInput) (guide : Bool) :
    gipToHid g guide = (gipToHid g false).withGuide guide := by
  refine HidReport.eq_of_bits (fun k => ?_) rfl
  rw [HidReport.bitAt_withGuide]
  split
  next hk => exact hk ▸ guide_gipToHid g guide
  next hk => exact (gipToHid_sameControls g guide).buttons k hk

namespace Pad

/-- A pad in use after an input and a guide event, each of which may be missing. -/
def shown (pad : Pad) (input : Option GipInput) (guide : Option Bool) : Pad where
  active := true
  guidePressed := guide.getD pad.guidePressed
  lastReport := (match input with
    | some g => gipToHid g false
    | none => pad.lastReport).withGuide (guide.getD pad.guidePressed)

theorem shown_none {pad : Pad} (hactive : pad.active = true) (hshows : pad.ShowsGuide) :
    pad.shown none none = pad := by
  refine Pad.ext hactive.symm rfl ?_
  change pad.lastReport.withGuide pad.guidePressed = pad.lastReport
  rw [← hshows]
  exact HidReport.withGuide_guide pad.lastReport

/-- Later events take the place of earlier ones. -/
theorem shown_shown (pad : Pad) (input later : Option GipInput) (guide guide' : Option Bool) :
    (pad.shown input guide).shown later guide' = pad.shown (later.or input) (guide'.or guide) := by
  cases later with
  | none => cases guide' <;> simp [shown]
  | some g => cases guide' <;> simp [shown]

/-- An event other than a disconnect. -/
theorem apply_eq_shown {pad : Pad} (hactive : pad.active = true) (hshows : pad.ShowsGuide)
    {event : PadEvent} (hkept : event ≠ .disconnect) :
    pad.apply event = pad.shown event.input? event.guide? := by
  cases event with
  | connect =>
      simp only [apply, if_pos hactive]
      exact (shown_none hactive hshows).symm
  | disconnect => exact absurd rfl hkept
  | input g =>
      simp only [apply, if_pos hactive, gipToHid_withGuide g pad.guidePressed]
      exact Pad.ext hactive rfl rfl
  | guide pressed => exact Pad.ext hactive rfl rfl

end Pad

/-! ## Controllers -/

/-- The pad event that a stimulus brings to the controller `mac` with slot `s`. -/
def Stimulus.padEvent? (mac : Mac) (s : Fin maxSlots) : Stimulus → Option PadEvent
  | .data sender frame =>
      match frame.event with
      | .pad event => if sender = mac then some event else none
      | _ => none
  | .lost gone => if gone = s then some .disconnect else none
  | _ => none

/-- First contact does nothing to a pad in use. -/
theorem Own.attach_pad {own : Own} (s : Fin maxSlots) (hactive : own.pad.active = true) :
    (own.attach s).pad = own.pad := by
  simp only [Own.attach, Pad.apply, if_pos hactive, ite_self]

/-- A pad in use takes the events of its controller. -/
theorem Own.step_shown {own : Own} {mac : Mac} {s : Fin maxSlots} {stimulus : Stimulus}
    (hactive : own.pad.active = true) (hshows : own.pad.ShowsGuide)
    (habout : stimulus.about mac s = true)
    (hkept : stimulus.padEvent? mac s ≠ some .disconnect) :
    (own.step s stimulus).pad =
      own.pad.shown ((stimulus.padEvent? mac s).bind PadEvent.input?)
        ((stimulus.padEvent? mac s).bind PadEvent.guide?) := by
  have hsame : own.pad = own.pad.shown none none := (Pad.shown_none hactive hshows).symm
  cases stimulus with
  | quiet => cases habout
  | register sender => exact hsame
  | associate sender reassoc =>
      simp only [Own.step]
      split <;> exact hsame
  | action sender => exact (Own.attach_pad s hactive).trans hsame
  | data sender frame =>
      obtain rfl : sender = mac := of_decide_eq_true habout
      simp only [Own.step, Stimulus.padEvent?] at hkept ⊢
      cases hevent : frame.event with
      | pad event =>
          simp only [hevent, if_true] at hkept ⊢
          have hdisconnect : event ≠ .disconnect := fun heq => hkept (congrArg some heq)
          simp only [Own.dispatch, Own.attach_pad s hactive]
          exact Pad.apply_eq_shown hactive hshows hdisconnect
      | announce => exact (Own.attach_pad s hactive).trans hsame
      | other => exact (Own.attach_pad s hactive).trans hsame
  | lost gone =>
      obtain rfl : gone = s := of_decide_eq_true habout
      exact absurd (if_pos rfl) hkept

/-- What is about another controller brings nothing. -/
theorem Stimulus.padEvent?_other {mac : Mac} {s : Fin maxSlots} {stimulus : Stimulus}
    (hother : stimulus.about mac s = false) : stimulus.padEvent? mac s = none := by
  cases stimulus with
  | data sender frame =>
      have hne : sender ≠ mac := of_decide_eq_false hother
      simp only [padEvent?, if_neg hne]
      cases frame.event <;> rfl
  | lost gone => exact if_neg (of_decide_eq_false hother)
  | quiet => rfl
  | register sender => rfl
  | associate sender reassoc => rfl
  | action sender => rfl

/-! ## Runs -/

section

variable (world : World) {mac : Mac} {i : Fin maxPeers} {s : Fin maxSlots}

/-- The pad event that a step brings to the controller `mac` with slot `s`. -/
def Step.padEvent? (ourMac mac : Mac) (s : Fin maxSlots) (step : Step) : Option PadEvent :=
  (step.stimulus world.env ourMac).padEvent? mac s

/-- A controller's slot after some steps that do not disconnect it. -/
theorem run_shown {daemon : Daemon} (hholds : daemon.link.Holds mac i s)
    (hactive : (daemon.pads.view s).active = true) (hshows : (daemon.pads.view s).ShowsGuide)
    (steps : List Step)
    (hkept : ∀ step ∈ steps, step.padEvent? world daemon.air.ourMac mac s ≠ some .disconnect) :
    (run (Daemon.step world) daemon steps).pads.view s =
      (daemon.pads.view s).shown
        (lastOf (fun step =>
          (step.padEvent? world daemon.air.ourMac mac s).bind PadEvent.input?) steps)
        (lastOf (fun step =>
          (step.padEvent? world daemon.air.ourMac mac s).bind PadEvent.guide?) steps) := by
  induction steps using List.reverseRecOn with
  | nil => exact (Pad.shown_none hactive hshows).symm
  | append_singleton steps last ih =>
      have hbefore := ih fun step hstep => hkept step (List.mem_append_left _ hstep)
      have hlast := hkept last (List.mem_append_right _ (List.mem_singleton.mpr rfl))
      -- the controller still has its slot, and the reader still compares with the same address
      have hinv := Machine.run_invariant
        (fun state : Daemon => state.link.Holds mac i s ∧ state.air.ourMac = daemon.air.ourMac)
        (fun state step hinv => ⟨step_holds world hinv.1 step,
          (step_ourMac world hinv.1.wf step).trans hinv.2⟩) ⟨hholds, rfl⟩ steps
      rw [Machine.run_concat, Machine.lastOf_concat, Machine.lastOf_concat]
      generalize run (Daemon.step world) daemon steps = state at hbefore hinv ⊢
      obtain ⟨hstate, hmac⟩ := hinv
      rw [← Pad.shown_shown, ← hbefore]
      have hactive' : (state.pads.view s).active = true := by rw [hbefore]; rfl
      have hshows' : (state.pads.view s).ShowsGuide := by
        rw [hbefore]
        exact HidReport.guide_withGuide _ _
      have hstep : (state.step world last).pads.view s =
          ((state.link.step (last.stimulus world.env state.air.ourMac)).own i s).pad :=
        congrArg (fun link => (Link.own i s link).pad) (step_link world hstate.wf last)
      rw [hstep, hmac]
      simp only [Step.padEvent?] at hlast ⊢
      generalize last.stimulus world.env daemon.air.ourMac = stimulus at hlast ⊢
      cases habout : stimulus.about mac s with
      | true =>
          rw [hstate.step_about habout, Link.own_put]
          exact Own.step_shown hactive' hshows' habout hlast
      | false =>
          rw [hstate.step_other habout, Stimulus.padEvent?_other habout]
          exact (Pad.shown_none hactive' hshows').symm

/-- The thirteen buttons a controller's input shows, in the order of the usages. -/
def GipInput.shownButtons (g : GipInput) (guide : Bool) : List Bool :=
  [bitAt g.buttons 4, bitAt g.buttons 5, bitAt g.buttons 6, bitAt g.buttons 7, bitAt g.buttons 12,
    bitAt g.buttons 13, bitAt g.buttons 2, bitAt g.buttons 3, bitAt g.buttons 14,
    bitAt g.buttons 15, guide, false, bitAt g.buttons 0]

/-- What a host reads of a controller's input: A, B, X, Y, LB, RB, Menu, View, LS, RS, Guide, Share
and Sync, the direction of the D-pad if it has one, both sticks, and the triggers up to 1023. -/
def GipInput.controls (g : GipInput) (guide : Bool) : List Control :=
  (g.shownButtons guide).mapIdx (fun k pressed => ⟨9, k + 1, some pressed.toNat⟩) ++
    [⟨1, 0x39, within 0 7 (hatOf g.buttons).toNat⟩, ⟨1, 0x30, some g.stickLx.toInt⟩,
      ⟨1, 0x31, some g.stickLy.toInt⟩, ⟨1, 0x33, some g.stickRx.toInt⟩,
      ⟨1, 0x34, some g.stickRy.toInt⟩, ⟨1, 0x32, within 0 1023 g.triggerL.toNat⟩,
      ⟨1, 0x35, within 0 1023 g.triggerR.toNat⟩]

theorem controls_gipToHid (g : GipInput) (guide : Bool) :
    Machine.Hid.controls kHidDescriptor (gipToHid g guide).bytes = g.controls guide := by
  have hbuttons : (gipToHid g guide).buttonControls 13 =
      (g.shownButtons guide).mapIdx fun k pressed => ⟨9, k + 1, some pressed.toNat⟩ := by
    simp [HidReport.buttonControls, List.range_succ, gipToHid_bitAt, GipInput.shownButtons]
  rw [controls_primary ((hatOf_le g.buttons).trans_lt (by decide)), hbuttons]
  rfl

/-- From every reachable state, as long as a controller is connected and neither leaves nor is lost,
its slot shows the input and the guide button that it reported last, whatever it reported before
and whatever else is received; and the report of an input reads on the host as that input, but for
a trigger above 1023, which is no value there. -/
theorem slot_shows_latest {daemon : Daemon} (hreach : Reachable world daemon)
    (hfound : daemon.table.findPeerByMac mac = some i)
    (hwcid : (daemon.table.peers i).wcid.toNat = s.val + 1)
    (hactive : (daemon.pads.slots s).active = true) (steps : List Step)
    (hkept : ∀ step ∈ steps, step.padEvent? world daemon.air.ourMac mac s ≠ some .disconnect) :
    (run (Daemon.step world) daemon steps).pads.view s =
        (daemon.pads.view s).shown
          (lastOf (fun step =>
            (step.padEvent? world daemon.air.ourMac mac s).bind PadEvent.input?) steps)
          (lastOf (fun step =>
            (step.padEvent? world daemon.air.ourMac mac s).bind PadEvent.guide?) steps) ∧
      ∀ g, lastOf (fun step =>
            (step.padEvent? world daemon.air.ourMac mac s).bind PadEvent.input?) steps = some g →
        Machine.Hid.controls kHidDescriptor
            ((run (Daemon.step world) daemon steps).pads.view s).lastReport.bytes =
          g.controls ((run (Daemon.step world) daemon steps).pads.view s).guidePressed := by
  have hwf := reachable_wf world hreach
  have hactive' := (PeerTable.findPeerByMac_some hfound).1
  have hpad : padOf? i = some s := by
    have hlt : i.val < 128 := i.isLt
    have hs : s.val < 8 := s.isLt
    rw [hwf.wcid i hactive', UInt8.toNat_ofNat'] at hwcid
    rw [padOf?, dif_pos ⟨by omega, by omega⟩]
    exact congrArg some (Fin.ext (by simp only; omega))
  obtain ⟨boot, before, hboot, rfl⟩ := hreach
  have hshown := run_shown world ⟨hwf, hfound, hpad⟩ hactive
    (run_showsGuide world hboot before s) steps hkept
  refine ⟨hshown, fun g hlatest => ?_⟩
  rw [hshown, hlatest]
  simp only [Pad.shown]
  rw [← gipToHid_withGuide, controls_gipToHid]

end

/-- Guide goes down, then A and the left trigger, all the way. -/
def heldSteps : List Step :=
  [guideStep, packetStep [0x20, 0x00, 0x04, 0x0e, 0x10, 0x00, 0xff, 0x03, 0x00, 0x00, 0x00, 0x00,
    0x00, 0x00, 0x00, 0x00, 0x00, 0x00] (by decide)]

theorem slot_shows_latest_held :
    (run (Daemon.step (romWorld plainRom)) oneController heldSteps).pads.view 0 =
        (oneController.pads.view 0).shown
          (lastOf (fun step => (step.padEvent? (romWorld plainRom) oneController.air.ourMac padMac
            0).bind PadEvent.input?) heldSteps)
          (lastOf (fun step => (step.padEvent? (romWorld plainRom) oneController.air.ourMac padMac
            0).bind PadEvent.guide?) heldSteps) ∧
      ∀ g, lastOf (fun step => (step.padEvent? (romWorld plainRom) oneController.air.ourMac padMac
            0).bind PadEvent.input?) heldSteps = some g →
        Machine.Hid.controls kHidDescriptor
            ((run (Daemon.step (romWorld plainRom)) oneController heldSteps).pads.view
              0).lastReport.bytes =
          g.controls ((run (Daemon.step (romWorld plainRom)) oneController heldSteps).pads.view
            0).guidePressed :=
  slot_shows_latest (romWorld plainRom) ⟨plainBoot, [addedStep], plainBoot_boots, rfl⟩
    (show _ = some 1 by decide +kernel) (by decide +kernel) (by decide +kernel) heldSteps
    (by decide +kernel)

end XoneDarwin
