import Mathlib.Logic.Function.Basic
import Mathlib.Data.List.FinRange
import XoneDarwin.Machine.Run

/-!
# The mapper

`xbox_mapper_tui.py` shows what the daemon reports and walks through a mapping wizard.
Two sources drive it: the daemon's UDP events and the keyboard.
-/

namespace XoneDarwin.Mapper

/-- What the mapper asks about readings of `time.time()`, which are floats. -/
structure Clock (Time : Type) where
  /-- `0.0` -/
  zero : Time
  /-- `first > second` -/
  later : Time → Time → Bool
  /-- `now - ts < 0.35` -/
  cooling : Time → Time → Bool

/-! ## Steps of the wizard -/

/-- `WIZARD_STEPS`. -/
inductive WizardStep
  | pressA
  | pressB
  | pressX
  | pressY
  | pressLb
  | pressRb
  | pressMenu
  | pressView
  | pressLt
  | pressRt
  | pressDpadUp
  | pressDpadDown
  | pressDpadLeft
  | pressDpadRight
  | moveLeftStickUp
  | moveLeftStickDown
  | moveLeftStickLeft
  | moveLeftStickRight
  | moveRightStickUp
  | moveRightStickDown
  | moveRightStickLeft
  | moveRightStickRight
  deriving DecidableEq

def wizardSteps : List WizardStep :=
  [.pressA, .pressB, .pressX, .pressY, .pressLb, .pressRb, .pressMenu, .pressView, .pressLt,
    .pressRt, .pressDpadUp, .pressDpadDown, .pressDpadLeft, .pressDpadRight, .moveLeftStickUp,
    .moveLeftStickDown, .moveLeftStickLeft, .moveLeftStickRight, .moveRightStickUp,
    .moveRightStickDown, .moveRightStickLeft, .moveRightStickRight]

def WizardStep.label : WizardStep → String
  | .pressA => "Press A"
  | .pressB => "Press B"
  | .pressX => "Press X"
  | .pressY => "Press Y"
  | .pressLb => "Press LB"
  | .pressRb => "Press RB"
  | .pressMenu => "Press MENU"
  | .pressView => "Press VIEW"
  | .pressLt => "Press LT"
  | .pressRt => "Press RT"
  | .pressDpadUp => "Press DPad UP"
  | .pressDpadDown => "Press DPad DOWN"
  | .pressDpadLeft => "Press DPad LEFT"
  | .pressDpadRight => "Press DPad RIGHT"
  | .moveLeftStickUp => "Move LEFT stick UP"
  | .moveLeftStickDown => "Move LEFT stick DOWN"
  | .moveLeftStickLeft => "Move LEFT stick LEFT"
  | .moveLeftStickRight => "Move LEFT stick RIGHT"
  | .moveRightStickUp => "Move RIGHT stick UP"
  | .moveRightStickDown => "Move RIGHT stick DOWN"
  | .moveRightStickLeft => "Move RIGHT stick LEFT"
  | .moveRightStickRight => "Move RIGHT stick RIGHT"

/-- `step in ("Press LT", "Press RT")` -/
def WizardStep.isTrigger (step : WizardStep) : Bool :=
  step = .pressLt || step = .pressRt

/-- `step in stick_steps` -/
def WizardStep.isStick : WizardStep → Bool
  | .moveLeftStickUp => true
  | .moveLeftStickDown => true
  | .moveLeftStickLeft => true
  | .moveLeftStickRight => true
  | .moveRightStickUp => true
  | .moveRightStickDown => true
  | .moveRightStickLeft => true
  | .moveRightStickRight => true
  | _ => false

/-! ## State -/

structure InputState (Time : Type) where
  buttons : Int
  lt : Int
  rt : Int
  lx : Int
  ly : Int
  rx : Int
  ry : Int
  connected : Bool
  lastUpdate : Time

/-- A slot is one of eight; the source checks its slot numbers where they come in. `none` stands
for the step number -1. -/
structure Wizard (Time : Type) where
  active : Bool
  slot : Fin 8
  step : Nat
  results : List (WizardStep × String)
  lastCaptureTs : Time
  triggerStep : Option Nat
  triggerBaseLt : Int
  triggerBaseRt : Int
  axisStep : Option Nat
  axisBaseLx : Int
  axisBaseLy : Int
  axisBaseRx : Int
  axisBaseRy : Int

structure App (Time : Type) where
  logPath : String
  states : Fin 8 → InputState Time
  wizard : Wizard Time
  status : String
  running : Bool

section

variable {Time : Type} (clock : Clock Time)

/-- `InputState()`. -/
def InputState.init : InputState Time where
  buttons := 0
  lt := 0
  rt := 0
  lx := 0
  ly := 0
  rx := 0
  ry := 0
  connected := false
  lastUpdate := clock.zero

/-- `Wizard(active=active, slot=slot)`. -/
def Wizard.init (active : Bool) (slot : Fin 8) : Wizard Time where
  active := active
  slot := slot
  step := 0
  results := []
  lastCaptureTs := clock.zero
  triggerStep := none
  triggerBaseLt := 0
  triggerBaseRt := 0
  axisStep := none
  axisBaseLx := 0
  axisBaseLy := 0
  axisBaseRx := 0
  axisBaseRy := 0

theorem firstSlot_lt : 0 < 8 := by decide

def App.init (logPath : String) : App Time where
  logPath := logPath
  states _ := InputState.init clock
  wizard := Wizard.init clock false ⟨0, firstSlot_lt⟩
  status := "Ready"
  running := true

end

/-! ## Captures -/

/-- `normalize_trigger`. -/
def normalizeTrigger (v : Int) : Int :=
  let v := v % 0x10000
  if v ≤ 4095 then v else min v (65535 - v)

/-- `mask & (1 << bit)` -/
def hasBit (mask : Int) (bit : Nat) : Bool :=
  (mask >>> bit) % 2 = 1

section

variable {Time : Type}

/-- `pressed_edge`. -/
def pressedEdge (prev cur : InputState Time) (bit : Nat) (change : String) : Option String :=
  if hasBit cur.buttons bit && !hasBit prev.buttons bit then some change else none

/-- `trigger_changed`. -/
def triggerChanged (base value prevValue : Int) (change : String) : Option String :=
  if 60 ≤ (value - base).natAbs ∨ 60 ≤ (value - prevValue).natAbs then some change else none

/-- `stick_changed` and `axis_observed`. -/
def stickChanged (base value prevValue : Int) (posLabel negLabel : String) : Option String :=
  if 1800 ≤ (value - base).natAbs ∨ 1800 ≤ (value - prevValue).natAbs then
    some (if 0 ≤ value - base then posLabel else negLabel)
  else none

/-- `change`, for the current step. -/
def Wizard.change (w : Wizard Time) (prev cur : InputState Time) : WizardStep → Option String
  | .pressA => pressedEdge prev cur 4 "button:A"
  | .pressB => pressedEdge prev cur 5 "button:B"
  | .pressX => pressedEdge prev cur 6 "button:X"
  | .pressY => pressedEdge prev cur 7 "button:Y"
  | .pressLb => pressedEdge prev cur 12 "button:LB"
  | .pressRb => pressedEdge prev cur 13 "button:RB"
  | .pressMenu => pressedEdge prev cur 2 "button:MENU"
  | .pressView => pressedEdge prev cur 3 "button:VIEW"
  | .pressLt => triggerChanged w.triggerBaseLt cur.lt prev.lt "trigger:LT"
  | .pressRt => triggerChanged w.triggerBaseRt cur.rt prev.rt "trigger:RT"
  | .pressDpadUp => pressedEdge prev cur 8 "dpad:UP"
  | .pressDpadDown => pressedEdge prev cur 9 "dpad:DOWN"
  | .pressDpadLeft => pressedEdge prev cur 10 "dpad:LEFT"
  | .pressDpadRight => pressedEdge prev cur 11 "dpad:RIGHT"
  | .moveLeftStickUp =>
      stickChanged w.axisBaseLy cur.ly prev.ly "stick:LEFT_Y_POS" "stick:LEFT_Y_NEG"
  | .moveLeftStickDown =>
      stickChanged w.axisBaseLy cur.ly prev.ly "stick:LEFT_Y_POS" "stick:LEFT_Y_NEG"
  | .moveLeftStickLeft =>
      stickChanged w.axisBaseLx cur.lx prev.lx "stick:LEFT_X_POS" "stick:LEFT_X_NEG"
  | .moveLeftStickRight =>
      stickChanged w.axisBaseLx cur.lx prev.lx "stick:LEFT_X_POS" "stick:LEFT_X_NEG"
  | .moveRightStickUp =>
      stickChanged w.axisBaseRy cur.ry prev.ry "stick:RIGHT_Y_POS" "stick:RIGHT_Y_NEG"
  | .moveRightStickDown =>
      stickChanged w.axisBaseRy cur.ry prev.ry "stick:RIGHT_Y_POS" "stick:RIGHT_Y_NEG"
  | .moveRightStickLeft =>
      stickChanged w.axisBaseRx cur.rx prev.rx "stick:RIGHT_X_POS" "stick:RIGHT_X_NEG"
  | .moveRightStickRight =>
      stickChanged w.axisBaseRx cur.rx prev.rx "stick:RIGHT_X_POS" "stick:RIGHT_X_NEG"

/-- The step judges triggers, and their baseline is not this step's. -/
def Wizard.needsTriggerBase (w : Wizard Time) (step : WizardStep) : Bool :=
  step.isTrigger && w.triggerStep != some w.step

def Wizard.needsAxisBase (w : Wizard Time) (step : WizardStep) : Bool :=
  step.isStick && w.axisStep != some w.step

def Wizard.takeTriggerBase (w : Wizard Time) (step : WizardStep) (cur : InputState Time) :
    Wizard Time :=
  if w.needsTriggerBase step then
    { w with triggerStep := some w.step, triggerBaseLt := cur.lt, triggerBaseRt := cur.rt }
  else w

def Wizard.takeAxisBase (w : Wizard Time) (step : WizardStep) (cur : InputState Time) :
    Wizard Time :=
  if w.needsAxisBase step then
    { w with
      axisStep := some w.step
      axisBaseLx := cur.lx
      axisBaseLy := cur.ly
      axisBaseRx := cur.rx
      axisBaseRy := cur.ry }
  else w

/-- The wizard with the baselines that the step needs. -/
def Wizard.taken (w : Wizard Time) (step : WizardStep) (cur : InputState Time) : Wizard Time :=
  (w.takeTriggerBase step cur).takeAxisBase step cur

/-- A step is over: what `maybe_capture_wizard` and `skip_wizard_step` end with. -/
def App.record (app : App Time) (step : WizardStep) (observed status : String) (now : Time) :
    App Time :=
  let w := { app.wizard with
    lastCaptureTs := now
    results := app.wizard.results ++ [(step, observed)]
    step := app.wizard.step + 1 }
  if wizardSteps.length ≤ w.step then
    { app with
      wizard := { w with active := false }
      status := "Wizard complete (press S to save log)" }
  else { app with wizard := w, status := status }

variable (clock : Clock Time)

/-- The wizard looks at this slot now. Every slot has a state of its own, so `cur is not
self.states[w.slot]` compares the slots. -/
def App.judges (app : App Time) (slot : Fin 8) (now : Time) : Bool :=
  app.wizard.active && slot == app.wizard.slot && !clock.cooling now app.wizard.lastCaptureTs

/-- `maybe_capture_wizard` once it looks: it takes what baselines the step needs and compares. -/
def App.capture (app : App Time) (step : WizardStep) (prev cur : InputState Time) (now : Time) :
    App Time :=
  let w := app.wizard.taken step cur
  let app := { app with wizard := w }
  match w.change prev cur step with
  | none => app
  | some change => app.record step change ("Wizard captured: " ++ change) now

/-- `maybe_capture_wizard`; `none` is the `IndexError` of `WIZARD_STEPS[w.step]`. -/
def App.maybeCaptureWizard (app : App Time) (slot : Fin 8) (prev cur : InputState Time)
    (now : Time) : Option (App Time) :=
  if app.judges clock slot now then
    wizardSteps[app.wizard.step]?.map fun step => app.capture step prev cur now
  else some app

/-! ## Events -/

/-- The values of an input event, as far as it has them. -/
structure Fields where
  buttons : Option Int
  lt : Option Int
  rt : Option Int
  lx : Option Int
  ly : Option Int
  rx : Option Int
  ry : Option Int

/-- What `apply_event` acts on. -/
inductive Event
  | connected (slot : Fin 8)
  | disconnected (slot : Fin 8)
  | input (slot : Fin 8) (fields : Fields)

/-- The assignments of an input event. -/
def InputState.assign (s : InputState Time) (fields : Fields) (now : Time) : InputState Time where
  buttons := fields.buttons.getD s.buttons
  lt := normalizeTrigger (fields.lt.getD s.lt)
  rt := normalizeTrigger (fields.rt.getD s.rt)
  lx := fields.lx.getD s.lx
  ly := fields.ly.getD s.ly
  rx := fields.rx.getD s.rx
  ry := fields.ry.getD s.ry
  connected := true
  lastUpdate := now

/-- `apply_event` once it knows what the event is. `now` and `judged` are the readings of the clock
there and in `maybe_capture_wizard`. -/
def App.applyEvent (app : App Time) (now judged : Time) : Event → Option (App Time)
  | .connected slot =>
      some { app with
        states := Function.update app.states slot
          { app.states slot with connected := true, lastUpdate := now }
        status := "Slot " ++ toString slot.val ++ " connected" }
  | .disconnected slot =>
      some { app with
        states := Function.update app.states slot (InputState.init clock)
        status := "Slot " ++ toString slot.val ++ " disconnected" }
  | .input slot fields =>
      let prev := app.states slot
      let cur := prev.assign fields now
      let app := { app with states := Function.update app.states slot cur }
      app.maybeCaptureWizard clock slot prev cur judged

/-! ## Keys -/

/-- `auto_select_wizard_slot`: the selected slot. -/
def App.autoSelectWizardSlot (app : App Time) : Fin 8 :=
  if (app.states app.wizard.slot).connected then app.wizard.slot
  else
    let best := (List.finRange 8).foldl (fun best idx =>
      if (app.states idx).connected && clock.later (app.states idx).lastUpdate best.2 then
        (some idx, (app.states idx).lastUpdate)
      else best) ((none : Option (Fin 8)), clock.zero)
    best.1.getD app.wizard.slot

/-- `skip_wizard_step`. -/
def App.skipWizardStep (app : App Time) (now : Time) : Option (App Time) :=
  if app.wizard.active = false then some { app with status := "Wizard not active" }
  else if wizardSteps.length ≤ app.wizard.step then
    some { app with status := "Wizard already complete" }
  else
    wizardSteps[app.wizard.step]?.map fun step =>
      app.record step "SKIPPED" ("Wizard skipped: " ++ step.label) now

/-- The slot that a key from `1` to `8` selects. -/
def keySlot? (ch : Nat) : Option (Fin 8) :=
  if h : 0x31 ≤ ch ∧ ch ≤ 0x38 then some ⟨ch - 0x31, by omega⟩ else none

/-- The keys that start a wizard. -/
def startsWizard (ch : Nat) : Bool :=
  ch = 'w'.toNat || ch = 'W'.toNat

/-- `handle_keys` with a key. Whether `save_log` can write its file is an input. -/
def App.handleKeys (app : App Time) (ch : Nat) (now : Time) (saves : Bool) : Option (App Time) :=
  if ch = 'q'.toNat ∨ ch = 'Q'.toNat then some { app with running := false }
  else if startsWizard ch then
    let slot := app.autoSelectWizardSlot clock
    some { app with
      wizard := Wizard.init clock true slot
      status := "Wizard started on slot " ++ toString slot.val }
  else if ch = 'n'.toNat ∨ ch = 'N'.toNat then app.skipWizardStep now
  else if ch = 's'.toNat ∨ ch = 'S'.toNat then
    if saves then some { app with status := "Saved log: " ++ app.logPath } else none
  else
    match keySlot? ch with
    | none => some app
    | some slot =>
        some { app with
          wizard := { app.wizard with slot := slot }
          status := "Selected slot " ++ toString slot.val ++ " for wizard" }

/-! ## Runs -/

inductive Input (Time : Type)
  | event (event : Event) (now judged : Time)
  | key (ch : Nat) (now : Time) (saves : Bool)

/-- One event or key of `run`. An exception ends the program. -/
def App.step (app : App Time) (input : Input Time) : App Time :=
  if app.running then
    let next :=
      match input with
      | .event event now judged => app.applyEvent clock now judged event
      | .key ch now saves => app.handleKeys clock ch now saves
    next.getD { app with running := false }
  else app

end

end XoneDarwin.Mapper
