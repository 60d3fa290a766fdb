import XoneDarwin.DriverKit.Decode
import XoneDarwin.DriverKit.Slots

/-!
# The driver's guide button

The guide button comes in a frame of its own, and the driver does not keep the report
it posted last. What it posts for the guide button shows everything else at rest.
-/

namespace XoneDarwin.DriverKit

open Machine (Always Latest Reading run)

/-- The reports are the same, the guide button aside. -/
def XboxHidReport.SameControls (report other : XboxHidReport) : Prop :=
  { report with btnGuide := other.btnGuide } = other

instance (report other : XboxHidReport) : Decidable (report.SameControls other) :=
  inferInstanceAs (Decidable (_ = _))

/-- The neutral report. -/
def neutralReport : XboxHidReport := { hat := 8 }

/-- Nothing that the report shows is in use. -/
structure GipInputReport.AtRest (g : GipInputReport) : Prop where
  face : g.btnA = false ∧ g.btnB = false ∧ g.btnX = false ∧ g.btnY = false
  shoulders : g.btnLb = false ∧ g.btnRb = false
  menu : g.btnMenu = false ∧ g.btnView = false
  thumbs : g.btnLs = false ∧ g.btnRs = false
  dpad : NoDirection g.btnDpadUp g.btnDpadDown g.btnDpadLeft g.btnDpadRight
  sticks : g.stickLeftX = 0 ∧ g.stickLeftY = 0 ∧ g.stickRightX = 0 ∧ g.stickRightY = 0
  triggers : g.triggerLeft = 0 ∧ g.triggerRight = 0

/-- The report posted last for a slot. -/
def lastReport (i : Fin maxControllers) (io : List DriverIo) : Option XboxHidReport :=
  io.findSome? fun call =>
    match call with
    | .post clientId report => if controller? clientId = some i then some report else none
    | _ => none

/-- `payloadLen` of `ProcessGIPFrame`. -/
def payloadLength (buf : List UInt8) : Nat :=
  if buf.length - 4 < (GipHeader.load buf).length.toNat then buf.length - 4
  else (GipHeader.load buf).length.toNat

namespace Driver

section

variable (i : Fin maxControllers) (driver : Driver) (input : Step)

/-- An input frame that is posted for the slot. -/
def PostsInput : Prop :=
  4 ≤ input.frame.length ∧ (GipHeader.load input.frame).command = gipCmdInput ∧
    sizeofGipInputReport ≤ payloadLength input.frame ∧
    controller? (GipHeader.load input.frame).client = some i ∧
    (driver.mSlots i).connected = true ∧ driver.mHidDevices i = true

/-- A guide frame that is posted for the slot. -/
def PostsGuide : Prop :=
  4 ≤ input.frame.length ∧ (GipHeader.load input.frame).command = gipCmdGuideBtn ∧
    1 ≤ payloadLength input.frame ∧
    controller? (GipHeader.load input.frame).client = some i ∧ driver.mHidDevices i = true

def Posts : Prop := PostsInput i driver input ∨ PostsGuide i driver input

/-- If it is an input frame, the controller is at rest. -/
def PostsAtRest : Prop :=
  PostsInput i driver input → (GipInputReport.load (input.frame.drop 4)).AtRest

/-- What is posted for the guide button shows everything else as the last report did. -/
def GuideKeepsControls (outside : Nat → ControllerSlot) : Prop :=
  ∀ clientId pressed, controller? clientId = some i →
    ∃ report, (driver.handleGuideButton outside clientId pressed).val.io =
        .post clientId report :: driver.io ∧
      report.btnGuide = pressed ∧
      report.SameControls ((lastReport i driver.io).getD neutralReport)

end

end Driver

/-! ## Reports at rest -/

theorem hatOf_eq_iff (up down left right : Bool) :
    hatOf up down left right = 8 ↔ NoDirection up down left right := by
  revert up down left right
  decide

theorem neutral_sameControls_iff (g : GipInputReport) (guide pressed : Bool) :
    XboxHidReport.SameControls { neutralReport with btnGuide := pressed }
      { gipToHid g with btnGuide := guide } ↔ g.AtRest := by
  simp only [XboxHidReport.SameControls, neutralReport, gipToHid, XboxHidReport.mk.injEq]
  constructor
  · rintro ⟨ha, hb, hx, hy, hlb, hrb, hmenu, hview, hls, hrs, -, hhat, hlx, hly, hrx, hry, hlt, hrt⟩
    exact ⟨⟨ha.symm, hb.symm, hx.symm, hy.symm⟩, ⟨hlb.symm, hrb.symm⟩, ⟨hmenu.symm, hview.symm⟩,
      ⟨hls.symm, hrs.symm⟩, (hatOf_eq_iff ..).mp hhat.symm,
      ⟨hlx.symm, hly.symm, hrx.symm, hry.symm⟩, hlt.symm, hrt.symm⟩
  · rintro ⟨⟨ha, hb, hx, hy⟩, ⟨hlb, hrb⟩, ⟨hmenu, hview⟩, ⟨hls, hrs⟩, hdpad, ⟨hlx, hly, hrx, hry⟩,
      hlt, hrt⟩
    exact ⟨ha.symm, hb.symm, hx.symm, hy.symm, hlb.symm, hrb.symm, hmenu.symm, hview.symm, hls.symm,
      hrs.symm, trivial, ((hatOf_eq_iff ..).mpr hdpad).symm, hlx.symm, hly.symm, hrx.symm,
      hry.symm, hlt.symm, hrt.symm⟩

/-! ## What is posted -/

section

variable (i : Fin maxControllers) (io : List DriverIo)

theorem lastReport_post (clientId : UInt8) (report : XboxHidReport) :
    lastReport i (.post clientId report :: io) =
      if controller? clientId = some i then some report else lastReport i io := by
  unfold lastReport
  rw [List.findSome?_cons]
  dsimp only
  split_ifs <;> rfl

theorem lastReport_calls (sending : SendOutcome) (packet : List UInt8) :
    lastReport i (sending.calls packet ++ io) = lastReport i io := by
  cases sending with
  | noPipe | noMemory | transfer => rfl

end

namespace Driver

/-- No report is posted for the slot from one state to the other. -/
def Unposted (i : Fin maxControllers) (before after : Driver) : Prop :=
  ∃ calls, after.io = calls ++ before.io ∧
    ∀ clientId report, controller? clientId = some i → .post clientId report ∉ calls

section

variable {i : Fin maxControllers} {before middle after : Driver}

theorem Unposted.of_io (hio : after.io = before.io) : Unposted i before after :=
  ⟨[], hio, fun _ _ _ => List.not_mem_nil⟩

theorem Unposted.refl (i : Fin maxControllers) (driver : Driver) : Unposted i driver driver :=
  .of_io rfl

theorem Unposted.trans (hfirst : Unposted i before middle) (hsecond : Unposted i middle after) :
    Unposted i before after := by
  obtain ⟨calls, hcalls, hsilent⟩ := hfirst
  obtain ⟨later, hlater, hquiet⟩ := hsecond
  refine ⟨later ++ calls, by rw [hlater, hcalls, List.append_assoc], ?_⟩
  intro clientId report hclient hmem
  rcases List.mem_append.mp hmem with hmem | hmem
  · exact hquiet clientId report hclient hmem
  · exact hsilent clientId report hclient hmem

theorem Unposted.call (call : DriverIo)
    (hcall : ∀ clientId report, controller? clientId = some i → .post clientId report ≠ call)
    (hio : after.io = call :: before.io) : Unposted i before after :=
  ⟨[call], hio, fun clientId report hclient hmem =>
    hcall clientId report hclient (List.mem_singleton.mp hmem)⟩

/-- A report for another slot. -/
theorem Unposted.other {clientId : UInt8} {j : Fin maxControllers} {report : XboxHidReport}
    (hslot : controller? clientId = some j) (hji : j ≠ i)
    (hio : after.io = .post clientId report :: before.io) : Unposted i before after := by
  refine .call (.post clientId report) (fun client other hclient hpost => hji ?_) hio
  cases hpost
  exact Option.some.inj (hslot.symm.trans hclient)

theorem Unposted.lastReport (hsilent : Unposted i before after) :
    lastReport i after.io = lastReport i before.io := by
  obtain ⟨calls, hio, hcalls⟩ := hsilent
  rw [hio]
  clear hio
  induction calls with
  | nil => rfl
  | cons call rest ih =>
      rw [← ih fun clientId report hclient hmem =>
        hcalls clientId report hclient (List.mem_cons_of_mem _ hmem)]
      cases call with
      | post clientId report =>
          rw [List.cons_append, lastReport_post, if_neg]
          exact fun hclient => hcalls clientId report hclient List.mem_cons_self
      | createPacket | send | releasePacket | start | stop => rfl

end

section

variable (outside : Nat → ControllerSlot) (driver : Driver) (i : Fin maxControllers)

theorem sendAcknowledge_unposted (sending : SendOutcome) (clientId command sequence : UInt8) :
    Unposted i driver (driver.sendAcknowledge sending clientId command sequence) := by
  rw [sendAcknowledge_eq]
  refine ⟨_, rfl, fun _ _ _ => ?_⟩
  cases sending with
  | noPipe | noMemory | transfer => simp [SendOutcome.calls]

theorem handleControllerAnnounce_unposted (outcome : HidOutcome) (clientId : UInt8) :
    Unposted i driver (driver.handleControllerAnnounce outside outcome clientId).val := by
  unfold handleControllerAnnounce
  cases controller? clientId with
  | none => exact .refl i driver
  | some j =>
      simp only [Reading.val_bind, slotAt_val]
      split
      · exact .refl i driver
      · simp only [Reading.val_bind]
        split
        · exact .refl i _
        · unfold createHidDevice
          split
          · exact .call (.start clientId) (by simp) rfl
          · exact .refl i _

theorem handleControllerDisconnect_unposted (clientId : UInt8) :
    Unposted i driver (driver.handleControllerDisconnect outside clientId).val := by
  unfold handleControllerDisconnect
  cases controller? clientId with
  | none => exact .refl i driver
  | some j =>
      simp only [Reading.val_bind]
      split
      · exact .call (.stop clientId) (by simp) rfl
      · exact .refl i _

theorem handleControllerInput_io (clientId : UInt8) (payload : List UInt8) :
    (driver.handleControllerInput outside clientId payload).val.io =
      match controller? clientId with
      | none => driver.io
      | some j =>
          if (driver.mSlots j).connected = true ∧ driver.mHidDevices j = true then
            .post clientId
              { gipToHid (.load payload) with btnGuide := (driver.mSlots j).guidePressed } ::
                driver.io
          else driver.io := by
  unfold handleControllerInput
  cases controller? clientId with
  | none => rfl
  | some j =>
      simp only [Reading.val_bind, slotAt_val]
      cases (driver.mSlots j).connected with
      | false => simp
      | true =>
          simp only [not_true_eq_false, reduceIte, Reading.val_bind, true_and]
          cases hdevice : driver.mHidDevices j with
          | false => simp [hdevice]
          | true => simp [hdevice, log]

theorem handleControllerInput_posted (clientId : UInt8) (payload : List UInt8) :
    if controller? clientId = some i ∧ (driver.mSlots i).connected = true ∧
        driver.mHidDevices i = true then
      (driver.handleControllerInput outside clientId payload).val.io =
        .post clientId
          { gipToHid (.load payload) with btnGuide := (driver.mSlots i).guidePressed } :: driver.io
    else Unposted i driver (driver.handleControllerInput outside clientId payload).val := by
  have hio := driver.handleControllerInput_io outside clientId payload
  cases hclient : controller? clientId with
  | none =>
      simp only [hclient] at hio
      rw [if_neg (by simp)]
      exact .of_io hio
  | some j =>
      simp only [hclient] at hio
      split at hio
      next hposts =>
        by_cases hji : j = i
        · subst hji
          rw [if_pos ⟨rfl, hposts⟩]
          exact hio
        · rw [if_neg fun h => hji (Option.some.inj h.1)]
          exact .other hclient hji hio
      next hposts =>
        rw [if_neg]
        · exact .of_io hio
        · rintro ⟨hji, hboth⟩
          cases hji
          exact hposts hboth

/-- The report for the guide button does not depend on what was posted before. -/
theorem handleGuideButton_io (clientId : UInt8) (pressed : Bool) :
    (driver.handleGuideButton outside clientId pressed).val.io =
      match controller? clientId with
      | none => driver.io
      | some j =>
          if driver.mHidDevices j then
            .post clientId { neutralReport with btnGuide := pressed } :: driver.io
          else driver.io := by
  unfold handleGuideButton postHidReport
  cases hclient : controller? clientId with
  | none => rfl
  | some j =>
      simp only [Reading.val_bind, slotAt_val]
      cases hdevice : driver.mHidDevices j with
      | false => simp [hdevice, setSlot]
      | true => simp [hdevice, log, setSlot, neutralReport]

theorem handleGuideButton_posted (clientId : UInt8) (pressed : Bool) :
    if controller? clientId = some i ∧ driver.mHidDevices i = true then
      (driver.handleGuideButton outside clientId pressed).val.io =
        .post clientId { neutralReport with btnGuide := pressed } :: driver.io
    else Unposted i driver (driver.handleGuideButton outside clientId pressed).val := by
  have hio := driver.handleGuideButton_io outside clientId pressed
  cases hclient : controller? clientId with
  | none =>
      simp only [hclient] at hio
      rw [if_neg (by simp)]
      exact .of_io hio
  | some j =>
      simp only [hclient] at hio
      split at hio
      next hdevice =>
        by_cases hji : j = i
        · subst hji
          rw [if_pos ⟨rfl, hdevice⟩]
          exact hio
        · rw [if_neg fun h => hji (Option.some.inj h.1)]
          exact .other hclient hji hio
      next hdevice =>
        rw [if_neg]
        · exact .of_io hio
        · rintro ⟨hji, hi⟩
          cases hji
          exact hdevice hi

section

variable {input : Step} (hlong : 4 ≤ input.frame.length)

include hlong

theorem step_input (hinput : (GipHeader.load input.frame).command = gipCmdInput) :
    driver.step outside input =
      if sizeofGipInputReport ≤ payloadLength input.frame then
        (driver.handleControllerInput outside (GipHeader.load input.frame).client
          (input.frame.drop 4)).val
      else driver := by
  rw [step, processGipFrame, if_neg (Nat.not_lt.mpr hlong)]
  dsimp only
  rw [hinput, if_neg (by decide), if_neg (by decide), if_neg (by decide), if_neg (by decide),
    if_pos rfl, apply_ite Reading.val]
  rfl

theorem step_guide (hguide : (GipHeader.load input.frame).command = gipCmdGuideBtn) :
    driver.step outside input =
      (if 1 ≤ payloadLength input.frame then
        (driver.handleGuideButton outside (GipHeader.load input.frame).client
          (byteAt (input.frame.drop 4) 0 ≠ 0)).val
      else driver).sendAcknowledge input.sending (GipHeader.load input.frame).client
        gipCmdGuideBtn (GipHeader.load input.frame).sequence := by
  rw [step, processGipFrame, if_neg (Nat.not_lt.mpr hlong)]
  dsimp only
  rw [hguide, if_neg (by decide), if_neg (by decide), if_neg (by decide), if_neg (by decide),
    if_neg (by decide), if_pos rfl, apply_ite Reading.val]
  exact (apply_ite (sendAcknowledge _ _ _ _) _ _ _).symm

/-- Other frames post nothing. -/
theorem step_silent (hinput : (GipHeader.load input.frame).command ≠ gipCmdInput)
    (hguide : (GipHeader.load input.frame).command ≠ gipCmdGuideBtn) :
    Unposted i driver (driver.step outside input) := by
  rw [step, processGipFrame, if_neg (Nat.not_lt.mpr hlong)]
  dsimp only
  have hacked (command : UInt8) := driver.sendAcknowledge_unposted i
    input.sending (GipHeader.load input.frame).client command (GipHeader.load input.frame).sequence
  rw [if_neg hinput, if_neg hguide]
  split_ifs
  · exact handleControllerAnnounce_unposted ..
  · exact handleControllerDisconnect_unposted ..
  · simp only [Reading.val_bind]
    split_ifs
    · exact hacked gipCmdAnnounce
    · exact (hacked gipCmdAnnounce).trans (handleControllerAnnounce_unposted ..)
  · exact hacked gipCmdStatus
  · exact .refl i driver

end

/-- What a frame posts for a slot: its input, a neutral report, or nothing. -/
inductive Posting (input : Step) (after : Driver) : Prop
  | input (posts : PostsInput i driver input)
      (clientId : UInt8) (slot : controller? clientId = some i)
      (io : after.io = .post clientId { gipToHid (.load (input.frame.drop 4)) with
        btnGuide := (driver.mSlots i).guidePressed } :: driver.io)
  | guide (posts : PostsGuide i driver input) (noInput : ¬PostsInput i driver input)
      (clientId : UInt8) (slot : controller? clientId = some i) (pressed : Bool)
      (packet : List UInt8) (io : after.io = input.sending.calls packet ++
        .post clientId { neutralReport with btnGuide := pressed } :: driver.io)
  | silent (posts : ¬Posts i driver input) (silent : Unposted i driver after)

theorem step_posting (input : Step) : Posting driver i input (driver.step outside input) := by
  by_cases hlength : input.frame.length < 4
  · have hnot : ¬Posts i driver input := by
      rintro (h | h) <;> exact Nat.not_le_of_lt hlength h.1
    refine .silent hnot ?_
    rw [step, processGipFrame, if_pos hlength]
    exact .refl i driver
  have hlong : 4 ≤ input.frame.length := Nat.le_of_not_lt hlength
  by_cases hinput : (GipHeader.load input.frame).command = gipCmdInput
  · have hnotGuide : ¬PostsGuide i driver input :=
      fun h => absurd (hinput.symm.trans h.2.1) (by decide)
    rw [step_input outside driver hlong hinput]
    split
    next hsize =>
      have hposted := handleControllerInput_posted outside driver i
        (GipHeader.load input.frame).client (input.frame.drop 4)
      split at hposted
      next hposts => exact .input ⟨hlong, hinput, hsize, hposts⟩ _ hposts.1 hposted
      next hposts =>
        exact .silent (fun h => h.elim (fun h => hposts h.2.2.2) hnotGuide) hposted
    next hsize =>
      exact .silent (fun h => h.elim (fun h => hsize h.2.2.1) hnotGuide) (.refl i driver)
  have hnotInput : ¬PostsInput i driver input := fun h => hinput h.2.1
  by_cases hguide : (GipHeader.load input.frame).command = gipCmdGuideBtn
  · rw [step_guide outside driver hlong hguide]
    split
    next hsize =>
      have hposted := handleGuideButton_posted outside driver i
        (GipHeader.load input.frame).client (byteAt (input.frame.drop 4) 0 ≠ 0)
      split at hposted
      next hposts =>
        have hacked := congrArg Driver.io (sendAcknowledge_eq (driver.handleGuideButton outside
          (GipHeader.load input.frame).client (byteAt (input.frame.drop 4) 0 ≠ 0)).val
          input.sending (GipHeader.load input.frame).client gipCmdGuideBtn
          (GipHeader.load input.frame).sequence)
        rw [hposted] at hacked
        exact .guide ⟨hlong, hguide, hsize, hposts⟩ hnotInput _ hposts.1 _ _ hacked
      next hposts =>
        exact .silent (fun h => h.elim hnotInput fun h => hposts h.2.2.2)
          (hposted.trans (sendAcknowledge_unposted ..))
    next hsize =>
      exact .silent (fun h => h.elim hnotInput fun h => hsize h.2.2.1)
        (sendAcknowledge_unposted ..)
  · exact .silent (fun h => h.elim hnotInput fun h => hguide h.2.1)
      (step_silent outside driver i hlong hinput hguide)

theorem controller?_ofNat : controller? (UInt8.ofNat i) = some i := by
  revert i
  decide

variable {i}

/-- With a gamepad, everything depends on what the last report shows. -/
theorem guideKeepsControls_iff (hdevice : driver.mHidDevices i = true) :
    GuideKeepsControls i driver outside ↔ ∀ pressed,
      XboxHidReport.SameControls { neutralReport with btnGuide := pressed }
        ((lastReport i driver.io).getD neutralReport) := by
  have hposted (clientId : UInt8) (pressed : Bool) (hclient : controller? clientId = some i) :
      (driver.handleGuideButton outside clientId pressed).val.io =
        .post clientId { neutralReport with btnGuide := pressed } :: driver.io := by
    rw [handleGuideButton_io, hclient]
    exact if_pos hdevice
  constructor
  · intro hkeeps pressed
    have hclient := controller?_ofNat i
    obtain ⟨report, hio, -, hsame⟩ := hkeeps _ pressed hclient
    rw [hposted _ pressed hclient] at hio
    cases hio
    exact hsame
  · intro hneutral clientId pressed hclient
    exact ⟨_, hposted clientId pressed hclient, rfl, hneutral pressed⟩

theorem neutral_sameControls (guide pressed : Bool) :
    XboxHidReport.SameControls { neutralReport with btnGuide := pressed }
      { neutralReport with btnGuide := guide } := rfl

/-- What was posted last was at rest just if the last report is neutral. -/
theorem latest_atRest_iff (i : Fin maxControllers) (steps : List Step) (pressed : Bool) :
    XboxHidReport.SameControls { neutralReport with btnGuide := pressed }
        ((lastReport i (run (step outside) {} steps).io).getD neutralReport) ↔
      Latest (step outside) (Posts i) (PostsAtRest i) {} steps := by
  induction steps using List.reverseRecOn with
  | nil => exact iff_of_true rfl Machine.latest_nil
  | append_singleton steps input ih =>
      rw [Machine.latest_concat, Machine.run_concat]
      generalize run (step outside) {} steps = driver at *
      cases step_posting outside driver i input with
      | input hinput clientId hclient hio =>
          have hposts : Posts i driver input := Or.inl hinput
          rw [hio, lastReport_post, if_pos hclient, Option.getD_some, neutral_sameControls_iff,
            and_iff_left fun h => absurd hposts h]
          exact ⟨fun hrest _ _ => hrest, fun h => h hposts hinput⟩
      | guide hguide hnotInput clientId hclient guide packet hio =>
          have hposts : Posts i driver input := Or.inr hguide
          -- a guide report is neutral whatever was held, and so is the next one after it
          rw [hio, lastReport_calls, lastReport_post, if_pos hclient, Option.getD_some,
            and_iff_left fun h => absurd hposts h]
          exact iff_of_true (neutral_sameControls guide pressed) fun _ h => absurd h hnotInput
      | silent hnot hsilent =>
          rw [hsilent.lastReport, ih, and_iff_right fun h => absurd h hnot]
          exact ⟨fun h _ => h, fun h => h hnot⟩

end

/-- In every run, for every slot with a gamepad: the guide button leaves the other controls as they
were just if the frame that was posted last for the slot was no input, or one at rest. -/
theorem guide_keeps_controls_iff (outside : Nat → ControllerSlot) (steps : List Step)
    (i : Fin maxControllers)
    (hdevice : (run (step outside) {} steps).mHidDevices i = true) :
    GuideKeepsControls i (run (step outside) {} steps) outside ↔
      Latest (step outside) (Posts i) (PostsAtRest i) {} steps := by
  rw [guideKeepsControls_iff outside _ hdevice]
  constructor
  · exact fun hneutral => (latest_atRest_iff outside i steps false).mp (hneutral false)
  · exact fun hlatest pressed => (latest_atRest_iff outside i steps pressed).mpr hlatest

/-- A controller connects and holds A. -/
def heldA : List Step :=
  [⟨[0x0e, 0, 0, 0], ⟨true, true, true⟩, .transfer .success⟩,
    ⟨[0x20, 0, 0, 18, 0x08, 0, 0, 0, 0, 0, 0, 0, 0, 0, 0, 0, 0, 0, 0, 0, 0, 0], ⟨true, true, true⟩,
      .transfer .success⟩]

theorem guide_keeps_controls_iff_held :
    GuideKeepsControls 0 (run (step fun _ => {}) {} heldA) (fun _ => {}) ↔
      Latest (step fun _ => {}) (Posts 0) (PostsAtRest 0) {} heldA :=
  guide_keeps_controls_iff (fun _ => {}) heldA 0 (by decide)

/-- Pressing the guide button releases it. -/
theorem guide_releases_a : ¬GuideKeepsControls 0 (run (step fun _ => {}) {} heldA) fun _ => {} := by
  intro hkeeps
  rw [guideKeepsControls_iff _ _ (by decide)] at hkeeps
  exact absurd (hkeeps true) (by decide)

end Driver

end XoneDarwin.DriverKit
