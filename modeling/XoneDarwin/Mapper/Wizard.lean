import XoneDarwin.Mapper.App

/-!
# What the wizard judges by

A trigger or stick is judged by a baseline that the wizard takes at the first event it looks
at in a step. The baseline is kept by the number of the step: selecting another slot, or a
new connection of the slot, leaves it in place. The previous value that the first event is also
compared with may be from before the step.
-/

namespace XoneDarwin.Mapper

open Machine (Always run)

/-- Where a value comes from: the slot, its connection, the wizard and its step. -/
structure Source where
  slot : Fin 8
  /-- how often the slot had disconnected -/
  connection : Nat
  /-- how many wizards had been started -/
  wizard : Nat
  step : Nat
  deriving DecidableEq

/-- A capture of a trigger or stick step. -/
structure Capture where
  /-- of the current value -/
  current : Source
  /-- of the baseline it is compared with -/
  base : Option Source
  /-- of the previous value, if the slot had sent one since it connected -/
  previous : Option Source
  deriving DecidableEq

/-- The values that are compared are the slot's own, of the same connection and step. -/
def Capture.Own (capture : Capture) : Prop :=
  capture.base = some capture.current ∧ capture.previous = some capture.current

instance (capture : Capture) : Decidable capture.Own :=
  inferInstanceAs (Decidable (_ ∧ _))

/-- The mapper, and where what it holds comes from. -/
structure Traced (Time : Type) where
  app : App Time
  connections : Fin 8 → Nat
  /-- where the values of a slot were last received -/
  received : Fin 8 → Option Source
  wizards : Nat
  triggerFrom : Option Source
  axisFrom : Option Source
  captures : List Capture

variable {Time : Type} (clock : Clock Time)

namespace Traced

def init (logPath : String) : Traced Time where
  app := App.init clock logPath
  connections _ := 0
  received _ := none
  wizards := 0
  triggerFrom := none
  axisFrom := none
  captures := []

section

variable (t : Traced Time)

def here (slot : Fin 8) : Source :=
  ⟨slot, t.connections slot, t.wizards, t.app.wizard.step⟩

def nextTriggerFrom (slot : Fin 8) (step : WizardStep) : Option Source :=
  if t.app.wizard.needsTriggerBase step then some (t.here slot) else t.triggerFrom

def nextAxisFrom (slot : Fin 8) (step : WizardStep) : Option Source :=
  if t.app.wizard.needsAxisBase step then some (t.here slot) else t.axisFrom

/-- What the wizard compares if it captures now. -/
def comparison (slot : Fin 8) (step : WizardStep) : Option Capture :=
  if step.isTrigger then some ⟨t.here slot, t.nextTriggerFrom slot step, t.received slot⟩
  else if step.isStick then some ⟨t.here slot, t.nextAxisFrom slot step, t.received slot⟩
  else none

/-- `maybe_capture_wizard`, as far as it takes baselines and compares. -/
def judge (slot : Fin 8) (prev cur : InputState Time) (now : Time) : Traced Time :=
  if t.app.judges clock slot now then
    match wizardSteps[t.app.wizard.step]? with
    | none => t
    | some step =>
        let w := t.app.wizard.taken step cur
        { t with
          triggerFrom := t.nextTriggerFrom slot step
          axisFrom := t.nextAxisFrom slot step
          captures :=
            if (w.change prev cur step).isSome then (t.comparison slot step).toList ++ t.captures
            else t.captures }
  else t

def trace : Input Time → Traced Time
  | .event (.connected _) _ _ => t
  | .event (.disconnected slot) _ _ =>
      { t with
        connections := Function.update t.connections slot (t.connections slot + 1)
        received := Function.update t.received slot none }
  | .event (.input slot fields) now judged =>
      let prev := t.app.states slot
      { t.judge clock slot prev (prev.assign fields now) judged with
        received := Function.update t.received slot (some (t.here slot)) }
  | .key ch _ _ =>
      if startsWizard ch then { t with wizards := t.wizards + 1 } else t

def step (input : Input Time) : Traced Time :=
  if t.app.running then { t.trace clock input with app := t.app.step clock input } else t

end

end Traced

/-! ## The program under the trace -/

theorem Traced.step_app (t : Traced Time) (input : Input Time) :
    (t.step clock input).app = t.app.step clock input := by
  rw [step]
  split
  next => rfl
  next hrunning => simp [App.step, hrunning]

/-- The trace follows the run and leaves it alone. -/
theorem Traced.run_app (logPath : String) (inputs : List (Input Time)) :
    (run (Traced.step clock) (Traced.init clock logPath) inputs).app =
      run (App.step clock) (App.init clock logPath) inputs := by
  have hmap : (run (Traced.step clock) (Traced.init clock logPath) inputs).app =
      run (App.step clock) (App.init clock logPath) (inputs.map id) :=
    Machine.run_map Traced.app id (fun _ => True) (fun _ _ _ => trivial)
      (fun t input _ => t.step_app clock input) trivial inputs
  rwa [List.map_id] at hmap

/-! ## Results -/

section

variable (app : App Time) (w : Wizard Time) (step : WizardStep) (cur : InputState Time)

@[simp] theorem record_step (observed status : String) (now : Time) :
    (app.record step observed status now).wizard.step = app.wizard.step + 1 := by
  rw [App.record]
  split <;> rfl

@[simp] theorem record_bases (observed status : String) (now : Time) :
    (app.record step observed status now).wizard.triggerStep = app.wizard.triggerStep ∧
      (app.record step observed status now).wizard.axisStep = app.wizard.axisStep := by
  rw [App.record]
  split <;> exact ⟨rfl, rfl⟩

theorem taken_place : (w.taken step cur).active = w.active ∧ (w.taken step cur).slot = w.slot ∧
    (w.taken step cur).step = w.step := by
  rw [Wizard.taken, Wizard.takeAxisBase, Wizard.takeTriggerBase]
  split_ifs <;> exact ⟨rfl, rfl, rfl⟩

theorem taken_triggerStep : (w.taken step cur).triggerStep =
    if w.needsTriggerBase step then some w.step else w.triggerStep := by
  rw [Wizard.taken, Wizard.takeAxisBase, Wizard.takeTriggerBase]
  split_ifs <;> rfl

theorem taken_axisStep : (w.taken step cur).axisStep =
    if w.needsAxisBase step then some w.step else w.axisStep := by
  have hneeds : (w.takeTriggerBase step cur).needsAxisBase step = w.needsAxisBase step := by
    rw [Wizard.takeTriggerBase]
    split <;> rfl
  rw [Wizard.taken, Wizard.takeAxisBase, hneeds, Wizard.takeTriggerBase]
  split_ifs <;> rfl

end

/-- The results are those of the steps so far, and the baselines are of no later step. -/
structure Wizard.WellFormed (w : Wizard Time) : Prop where
  steps : w.results.map Prod.fst = wizardSteps.take w.step
  count : w.results.length = w.step
  valid : w.active = true → w.step < wizardSteps.length
  trigger : ∀ n ∈ w.triggerStep, n ≤ w.step
  axis : ∀ n ∈ w.axisStep, n ≤ w.step

theorem wellFormed_init (active : Bool) (slot : Fin 8) :
    (Wizard.init clock active slot).WellFormed where
  steps := rfl
  count := rfl
  valid _ := Nat.zero_lt_succ 21
  trigger n hn := by cases hn
  axis n hn := by cases hn

section

variable {clock}

theorem Wizard.WellFormed.taken {w : Wizard Time} (hw : w.WellFormed) (step : WizardStep)
    (cur : InputState Time) : (w.taken step cur).WellFormed := by
  have hresults : (w.taken step cur).results = w.results := by
    rw [Wizard.taken, Wizard.takeAxisBase, Wizard.takeTriggerBase]
    split_ifs <;> rfl
  obtain ⟨hactive, -, hstep⟩ := taken_place w step cur
  constructor
  · rw [hresults, hstep, hw.steps]
  · rw [hresults, hstep, hw.count]
  · rw [hactive, hstep]
    exact hw.valid
  · intro n hn
    rw [taken_triggerStep] at hn
    rw [hstep]
    split at hn
    · exact Nat.le_of_eq (Option.some.inj hn).symm
    · exact hw.trigger n hn
  · intro n hn
    rw [taken_axisStep] at hn
    rw [hstep]
    split at hn
    · exact Nat.le_of_eq (Option.some.inj hn).symm
    · exact hw.axis n hn

theorem Wizard.WellFormed.record {app : App Time} (hw : app.wizard.WellFormed) {step : WizardStep}
    (hstep : wizardSteps[app.wizard.step]? = some step) (observed status : String) (now : Time) :
    (app.record step observed status now).wizard.WellFormed := by
  have hsteps : (app.wizard.results ++ [(step, observed)]).map Prod.fst =
      wizardSteps.take (app.wizard.step + 1) := by
    rw [List.map_append, hw.steps, List.take_add_one, hstep]
    rfl
  have hcount : (app.wizard.results ++ [(step, observed)]).length = app.wizard.step + 1 := by
    rw [List.length_append, hw.count]
    rfl
  have htrigger : ∀ n ∈ app.wizard.triggerStep, n ≤ app.wizard.step + 1 :=
    fun n hn => Nat.le_succ_of_le (hw.trigger n hn)
  have haxis : ∀ n ∈ app.wizard.axisStep, n ≤ app.wizard.step + 1 :=
    fun n hn => Nat.le_succ_of_le (hw.axis n hn)
  rw [App.record]
  split
  next =>
    exact ⟨hsteps, hcount, fun hactive => absurd hactive Bool.false_ne_true, htrigger, haxis⟩
  next hmore => exact ⟨hsteps, hcount, fun _ => Nat.lt_of_not_le hmore, htrigger, haxis⟩

/-- A step that is over leaves only baselines of earlier steps. -/
theorem Wizard.WellFormed.record_later {app : App Time} (hw : app.wizard.WellFormed)
    (step : WizardStep) (observed status : String) (now : Time) :
    let after := (app.record step observed status now).wizard
    (∀ n ∈ after.triggerStep, n < after.step) ∧ ∀ n ∈ after.axisStep, n < after.step := by
  intro after
  obtain ⟨htrigger, haxis⟩ := record_bases app step observed status now
  have hstep : after.step = app.wizard.step + 1 := record_step app step observed status now
  rw [hstep]
  constructor
  · intro n hn
    rw [htrigger] at hn
    exact Nat.lt_succ_of_le (hw.trigger n hn)
  · intro n hn
    rw [haxis] at hn
    exact Nat.lt_succ_of_le (hw.axis n hn)

/-- The wizard looks at a step that there is. -/
theorem exists_step {app : App Time} (hw : app.wizard.WellFormed)
    (hactive : app.wizard.active = true) :
    ∃ step, wizardSteps[app.wizard.step]? = some step :=
  ⟨_, List.getElem?_eq_getElem (hw.valid hactive)⟩

theorem Wizard.WellFormed.capture {app : App Time} (hw : app.wizard.WellFormed) {step : WizardStep}
    (hstep : wizardSteps[app.wizard.step]? = some step) (prev cur : InputState Time) (now : Time) :
    (app.capture step prev cur now).wizard.WellFormed := by
  have htaken := hw.taken step cur
  have hsame : (app.wizard.taken step cur).step = app.wizard.step := (taken_place _ _ _).2.2
  rw [App.capture]
  split
  next => exact htaken
  next =>
    refine Wizard.WellFormed.record htaken ?_ _ _ _
    rw [← hstep]
    exact congrArg (wizardSteps[·]?) hsame

/-- The wizard compares and goes on looking, or it captures and the step is over. -/
theorem Wizard.WellFormed.capture_cases {app : App Time} (hw : app.wizard.WellFormed)
    (step : WizardStep) (prev cur : InputState Time) (now : Time) :
    let change := (app.wizard.taken step cur).change prev cur step
    let after := (app.capture step prev cur now).wizard
    (change.isSome = false ∧ after = app.wizard.taken step cur) ∨
      change.isSome = true ∧
        (∀ n ∈ after.triggerStep, n < after.step) ∧ ∀ n ∈ after.axisStep, n < after.step := by
  intro change after
  have hafter : after = (app.capture step prev cur now).wizard := rfl
  rw [App.capture] at hafter
  cases hchange : change with
  | none =>
      have hnone : (app.wizard.taken step cur).change prev cur step = none := hchange
      rw [hnone] at hafter
      exact Or.inl ⟨rfl, hafter⟩
  | some observed =>
      have hsome : (app.wizard.taken step cur).change prev cur step = some observed := hchange
      rw [hsome] at hafter
      rw [hafter]
      have hbased : ({ app with wizard := app.wizard.taken step cur } : App Time).wizard.WellFormed :=
        hw.taken step cur
      exact Or.inr ⟨rfl, hbased.record_later _ _ _ _⟩

theorem judges_eq_true {app : App Time} {slot : Fin 8} {now : Time} :
    app.judges clock slot now = true ↔
      app.wizard.active = true ∧ slot = app.wizard.slot ∧
        clock.cooling now app.wizard.lastCaptureTs = false := by
  simp [App.judges, and_assoc]

end

/-- An input event is looked at or not, and never an error. -/
theorem maybeCaptureWizard_cases {app : App Time} (hw : app.wizard.WellFormed) (slot : Fin 8)
    (prev cur : InputState Time) (now : Time) :
    (app.judges clock slot now = false ∧
      app.maybeCaptureWizard clock slot prev cur now = some app) ∨
    ∃ step, app.judges clock slot now = true ∧ wizardSteps[app.wizard.step]? = some step ∧
      app.maybeCaptureWizard clock slot prev cur now = some (app.capture step prev cur now) := by
  rw [App.maybeCaptureWizard]
  cases hjudges : app.judges clock slot now with
  | false => exact Or.inl ⟨rfl, rfl⟩
  | true =>
      obtain ⟨step, hstep⟩ := exists_step hw (judges_eq_true.mp hjudges).1
      exact Or.inr ⟨step, rfl, hstep, by rw [hstep]; rfl⟩

theorem applyEvent_wellFormed {app : App Time} (hw : app.wizard.WellFormed) (now judged : Time)
    (event : Event) :
    ∃ after, app.applyEvent clock now judged event = some after ∧ after.wizard.WellFormed := by
  cases event with
  | connected slot => exact ⟨_, rfl, hw⟩
  | disconnected slot => exact ⟨_, rfl, hw⟩
  | input slot fields =>
      let cur := (app.states slot).assign fields now
      let updated := { app with states := Function.update app.states slot cur }
      have hupdated : updated.wizard.WellFormed := hw
      rcases maybeCaptureWizard_cases clock hupdated slot (app.states slot) cur judged with
        ⟨-, hafter⟩ | ⟨step, -, hstep, hafter⟩
      · exact ⟨updated, hafter, hupdated⟩
      · exact ⟨_, hafter, Wizard.WellFormed.capture hupdated hstep _ _ _⟩

/-- What a key does to the wizard. -/
theorem handleKeys_cases (app : App Time) (ch : Nat) (now : Time) (saves : Bool) :
    let next := (app.handleKeys clock ch now saves).getD { app with running := false }
    (startsWizard ch = false ∧ ∃ slot, keySlot? ch = some slot ∧
      next.wizard = { app.wizard with slot := slot }) ∨
    keySlot? ch = none ∧
      ((startsWizard ch = true ∧ ∃ slot, next.wizard = Wizard.init clock true slot) ∨
        startsWizard ch = false ∧ (next.wizard = app.wizard ∨
          ∃ step observed status, wizardSteps[app.wizard.step]? = some step ∧
            next.wizard = (app.record step observed status now).wizard)) := by
  intro next
  have hnext : next = (app.handleKeys clock ch now saves).getD { app with running := false } := rfl
  clear_value next
  rw [App.handleKeys] at hnext
  -- the keys are looked at in the order of the source, and no key is two of them
  split at hnext
  next hquit =>
    have hchars : keySlot? ch = none ∧ startsWizard ch = false := by
      rcases hquit with rfl | rfl <;> decide
    exact Or.inr ⟨hchars.1, Or.inr ⟨hchars.2, Or.inl (by rw [hnext]; rfl)⟩⟩
  next =>
    split at hnext
    next hstart =>
      have hchars := hstart
      rw [startsWizard, Bool.or_eq_true, decide_eq_true_eq, decide_eq_true_eq] at hchars
      have hslot : keySlot? ch = none := by rcases hchars with rfl | rfl <;> decide
      exact Or.inr ⟨hslot, Or.inl ⟨hstart, _, by rw [hnext]; rfl⟩⟩
    next hstart =>
      have hother := Bool.eq_false_of_not_eq_true hstart
      split at hnext
      next hskip =>
        have hslot : keySlot? ch = none := by rcases hskip with rfl | rfl <;> decide
        refine Or.inr ⟨hslot, Or.inr ⟨hother, ?_⟩⟩
        rw [App.skipWizardStep] at hnext
        split_ifs at hnext
        · exact Or.inl (by rw [hnext]; rfl)
        · exact Or.inl (by rw [hnext]; rfl)
        · cases hstep : wizardSteps[app.wizard.step]? with
          | none => exact Or.inl (by rw [hnext, hstep]; rfl)
          | some step => exact Or.inr ⟨step, _, _, rfl, by rw [hnext, hstep]; rfl⟩
      next =>
        split at hnext
        next hsave =>
          have hslot : keySlot? ch = none := by rcases hsave with rfl | rfl <;> decide
          refine Or.inr ⟨hslot, Or.inr ⟨hother, Or.inl ?_⟩⟩
          split at hnext <;> rw [hnext] <;> rfl
        next =>
          split at hnext
          next hslot => exact Or.inr ⟨hslot, Or.inr ⟨hother, Or.inl (by rw [hnext]; rfl)⟩⟩
          next slot hslot => exact Or.inl ⟨hother, slot, hslot, by rw [hnext]; rfl⟩

theorem step_wellFormed {app : App Time} (hw : app.wizard.WellFormed) (input : Input Time) :
    (app.step clock input).wizard.WellFormed := by
  unfold App.step
  split
  next =>
    cases input with
    | event event now judged =>
        obtain ⟨after, hafter, hwell⟩ := applyEvent_wellFormed clock hw now judged event
        simp only [hafter]
        exact hwell
    | key ch now saves =>
        rcases handleKeys_cases clock app ch now saves with ⟨-, slot, -, hwizard⟩ |
          ⟨-, ⟨-, slot, hwizard⟩ | ⟨-, hwizard | ⟨step, observed, status, hstep, hwizard⟩⟩⟩
        · rw [hwizard]
          exact ⟨hw.steps, hw.count, hw.valid, hw.trigger, hw.axis⟩
        · rw [hwizard]
          exact wellFormed_init clock true slot
        · rw [hwizard]
          exact hw
        · rw [hwizard]
          exact hw.record hstep observed status now
  next => exact hw

/-! ## Baselines -/

/-- The wizard has taken a baseline in its step. -/
def App.HoldsBaseline (app : App Time) : Prop :=
  app.running = true ∧ app.wizard.active = true ∧
    (app.wizard.triggerStep = some app.wizard.step ∨ app.wizard.axisStep = some app.wizard.step)

/-- While it holds a baseline, neither is another slot selected nor does the slot disconnect. -/
def Steady (app : App Time) : Input Time → Prop
  | .event (.disconnected slot) _ _ => app.HoldsBaseline → slot ≠ app.wizard.slot
  | .key ch _ _ => app.HoldsBaseline → ∀ slot ∈ keySlot? ch, slot = app.wizard.slot
  | _ => True

/-- The control that a step judges, and how far it has to move; none for buttons. -/
def WizardStep.control? : WizardStep → Option ((InputState Time → Int) × Nat)
  | .pressLt => some (InputState.lt, 60)
  | .pressRt => some (InputState.rt, 60)
  | .moveLeftStickUp => some (InputState.ly, 1800)
  | .moveLeftStickDown => some (InputState.ly, 1800)
  | .moveLeftStickLeft => some (InputState.lx, 1800)
  | .moveLeftStickRight => some (InputState.lx, 1800)
  | .moveRightStickUp => some (InputState.ry, 1800)
  | .moveRightStickDown => some (InputState.ry, 1800)
  | .moveRightStickLeft => some (InputState.rx, 1800)
  | .moveRightStickRight => some (InputState.rx, 1800)
  | _ => none

/-- From one state of a slot to the next, the control has moved that far. -/
def WizardStep.Moves (step : WizardStep) (prev cur : InputState Time) : Prop :=
  ∃ control ∈ step.control?, control.2 ≤ (control.1 cur - control.1 prev).natAbs

/-- The wizard has yet to take the baseline of its step. -/
def Wizard.NeedsBase (w : Wizard Time) (step : WizardStep) : Prop :=
  w.needsTriggerBase step = true ∨ w.needsAxisBase step = true

/-- An event that the wizard takes a baseline from moves the control only if the slot has already
sent in that step. -/
def Traced.Patient (t : Traced Time) : Input Time → Prop
  | .event (.input slot fields) now judged =>
      t.app.running = true → t.app.judges clock slot judged = true →
        ∀ step ∈ wizardSteps[t.app.wizard.step]?, t.app.wizard.NeedsBase step →
          step.Moves (t.app.states slot) ((t.app.states slot).assign fields now) →
            t.received slot = some (t.here slot)
  | _ => True

/-- The baselines of the step are the selected slot's, taken in its connection and in this step,
and so is what it sent last. -/
structure Traced.Fresh (t : Traced Time) : Prop where
  trigger : t.app.wizard.active = true → t.app.wizard.triggerStep = some t.app.wizard.step →
    t.triggerFrom = some (t.here t.app.wizard.slot)
  axis : t.app.wizard.active = true → t.app.wizard.axisStep = some t.app.wizard.step →
    t.axisFrom = some (t.here t.app.wizard.slot)
  heard : t.app.HoldsBaseline → t.received t.app.wizard.slot = some (t.here t.app.wizard.slot)

section

variable {t : Traced Time}

/-- Baselines of earlier steps do not count. -/
theorem Traced.fresh_of_later (htrigger : ∀ n ∈ t.app.wizard.triggerStep, n < t.app.wizard.step)
    (haxis : ∀ n ∈ t.app.wizard.axisStep, n < t.app.wizard.step) : t.Fresh where
  trigger _ htaken := absurd (htrigger _ htaken) (Nat.lt_irrefl _)
  axis _ htaken := absurd (haxis _ htaken) (Nat.lt_irrefl _)
  heard := by
    rintro ⟨-, -, htaken | htaken⟩
    · exact absurd (htrigger _ htaken) (Nat.lt_irrefl _)
    · exact absurd (haxis _ htaken) (Nat.lt_irrefl _)

/-- With the wizard as it was, the baselines are fresh just if they still come from the same
place. -/
theorem Traced.fresh_congr_iff {later : Traced Time} (hrunning : t.app.running = true)
    (hfresh : t.Fresh) (slot : Fin 8)
    (hwizard : later.app.wizard = { t.app.wizard with slot := slot })
    (htrigger : later.triggerFrom = t.triggerFrom) (haxis : later.axisFrom = t.axisFrom)
    (hreceived : later.received slot = t.received slot ∨
      later.received slot = some (later.here slot) ∨ later.here slot ≠ t.here slot) :
    later.Fresh ↔ (t.app.HoldsBaseline → later.here slot = t.here t.app.wizard.slot) := by
  have hslot : later.app.wizard.slot = slot := by rw [hwizard]
  have hactive : later.app.wizard.active = t.app.wizard.active := by rw [hwizard]
  have hstep : later.app.wizard.step = t.app.wizard.step := by rw [hwizard]
  have htaken : later.app.wizard.triggerStep = t.app.wizard.triggerStep := by rw [hwizard]
  have htaken' : later.app.wizard.axisStep = t.app.wizard.axisStep := by rw [hwizard]
  constructor
  · rintro ⟨hlater, hlater', -⟩ ⟨-, hon, htook⟩
    rw [hactive, htaken, hstep, htrigger, hslot] at hlater
    rw [hactive, htaken', hstep, haxis, hslot] at hlater'
    -- whichever baseline the step holds, it was the selected slot's before and is after
    rcases htook with htook | htook
    · exact Option.some.inj ((hlater hon htook).symm.trans (hfresh.trigger hon htook))
    · exact Option.some.inj ((hlater' hon htook).symm.trans (hfresh.axis hon htook))
  · intro hsame
    constructor
    · intro hon htook
      rw [hactive] at hon
      rw [htaken, hstep] at htook
      rw [htrigger, hslot, hsame ⟨hrunning, hon, Or.inl htook⟩]
      exact hfresh.trigger hon htook
    · intro hon htook
      rw [hactive] at hon
      rw [htaken', hstep] at htook
      rw [haxis, hslot, hsame ⟨hrunning, hon, Or.inr htook⟩]
      exact hfresh.axis hon htook
    · rintro ⟨-, hon, htook⟩
      rw [hactive] at hon
      rw [htaken, htaken', hstep] at htook
      have hholds : t.app.HoldsBaseline := ⟨hrunning, hon, htook⟩
      have hplace := hsame hholds
      -- the place names the slot, so it is the same one
      have hchosen : slot = t.app.wizard.slot := congrArg Source.slot hplace
      subst hchosen
      rw [hslot]
      rcases hreceived with hreceived | hreceived | hmoved
      · rw [hreceived, hfresh.heard hholds, hplace]
      · exact hreceived
      · exact absurd hplace hmoved

variable {clock}

/-- A wizard that has just taken what its step needs has it from the slot it looks at. -/
theorem Traced.fresh_taken {later : Traced Time} (hfresh : t.Fresh) {slot : Fin 8} {now : Time}
    (hjudges : t.app.judges clock slot now = true) {step : WizardStep} {cur : InputState Time}
    (hwizard : later.app.wizard = t.app.wizard.taken step cur)
    (hhere : later.here slot = t.here slot)
    (htrigger : later.triggerFrom = t.nextTriggerFrom slot step)
    (haxis : later.axisFrom = t.nextAxisFrom slot step)
    (hreceived : later.received slot = some (t.here slot)) : later.Fresh := by
  obtain ⟨hon, rfl, -⟩ := judges_eq_true.mp hjudges
  obtain ⟨-, hslot, hstep⟩ := taken_place t.app.wizard step cur
  constructor
  · intro _ htook
    rw [hwizard, taken_triggerStep, hstep] at htook
    rw [htrigger, hwizard, hslot, hhere, nextTriggerFrom]
    split_ifs at htook ⊢
    · rfl
    · exact hfresh.trigger hon htook
  · intro _ htook
    rw [hwizard, taken_axisStep, hstep] at htook
    rw [haxis, hwizard, hslot, hhere, nextAxisFrom]
    split_ifs at htook ⊢
    · rfl
    · exact hfresh.axis hon htook
  · intro _
    rw [hwizard, hslot, hhere]
    exact hreceived

/-- A baseline that is taken is the current value. -/
theorem taken_bases (w : Wizard Time) (step : WizardStep) (cur : InputState Time) :
    (w.needsTriggerBase step = true →
      (w.taken step cur).triggerBaseLt = cur.lt ∧ (w.taken step cur).triggerBaseRt = cur.rt) ∧
    (w.needsAxisBase step = true →
      (w.taken step cur).axisBaseLx = cur.lx ∧ (w.taken step cur).axisBaseLy = cur.ly ∧
        (w.taken step cur).axisBaseRx = cur.rx ∧ (w.taken step cur).axisBaseRy = cur.ry) := by
  rw [Wizard.taken]
  constructor
  · intro htrigger
    rw [Wizard.takeAxisBase, Wizard.takeTriggerBase, if_pos htrigger]
    split <;> exact ⟨rfl, rfl⟩
  · intro haxis
    have hneeds : (w.takeTriggerBase step cur).needsAxisBase step = true := by
      rw [Wizard.takeTriggerBase]
      split <;> exact haxis
    rw [Wizard.takeAxisBase, if_pos hneeds]
    exact ⟨rfl, rfl, rfl, rfl⟩

theorem triggerChanged_isSome {base value prevValue : Int} (hbase : base = value)
    (change : String) : (triggerChanged base value prevValue change).isSome = true ↔
      60 ≤ (value - prevValue).natAbs := by
  subst hbase
  simp only [triggerChanged, Int.sub_self, Int.natAbs_zero]
  split <;> simp_all

theorem stickChanged_isSome {base value prevValue : Int} (hbase : base = value)
    (positive negative : String) :
    (stickChanged base value prevValue positive negative).isSome = true ↔
      1800 ≤ (value - prevValue).natAbs := by
  subst hbase
  simp only [stickChanged, Int.sub_self, Int.natAbs_zero]
  split <;> simp_all

/-- What the wizard has just taken a baseline from it captures if the control has moved. -/
theorem taken_change_isSome {w : Wizard Time} {step : WizardStep} (hneeds : w.NeedsBase step)
    (prev cur : InputState Time) :
    ((w.taken step cur).change prev cur step).isSome = true ↔ step.Moves prev cur := by
  have hmoves (control : (InputState Time → Int) × Nat) (hcontrol : step.control? = some control) :
      step.Moves prev cur ↔ control.2 ≤ (control.1 cur - control.1 prev).natAbs := by
    simp [WizardStep.Moves, hcontrol]
  obtain ⟨htrigger, haxis⟩ := taken_bases w step cur
  rcases hneeds with hneeds | hneeds
  · obtain ⟨hlt, hrt⟩ := htrigger hneeds
    rw [Wizard.needsTriggerBase, Bool.and_eq_true] at hneeds
    cases step <;> first
      | exact (triggerChanged_isSome hlt _).trans (hmoves _ rfl).symm
      | exact (triggerChanged_isSome hrt _).trans (hmoves _ rfl).symm
      | exact absurd hneeds.1 (by decide)
  · obtain ⟨hlx, hly, hrx, hry⟩ := haxis hneeds
    rw [Wizard.needsAxisBase, Bool.and_eq_true] at hneeds
    cases step <;> first
      | exact (stickChanged_isSome hlx _ _).trans (hmoves _ rfl).symm
      | exact (stickChanged_isSome hly _ _).trans (hmoves _ rfl).symm
      | exact (stickChanged_isSome hrx _ _).trans (hmoves _ rfl).symm
      | exact (stickChanged_isSome hry _ _).trans (hmoves _ rfl).symm
      | exact absurd hneeds.1 (by decide)

theorem Traced.comparison_eq_none {slot : Fin 8} {step : WizardStep} :
    t.comparison slot step = none → ¬t.app.wizard.NeedsBase step := by
  intro hnone hneeds
  rw [comparison] at hnone
  rcases hneeds with hneeds | hneeds
  · rw [Wizard.needsTriggerBase, Bool.and_eq_true] at hneeds
    rw [if_pos hneeds.1] at hnone
    cases hnone
  · rw [Wizard.needsAxisBase, Bool.and_eq_true] at hneeds
    split_ifs at hnone
    exact absurd hneeds.1 ‹_›

/-- What is compared comes from the slot the wizard looks at, and the previous value from this step
unless the baseline is new. -/
theorem Traced.comparison_own_iff (hfresh : t.Fresh) (hrunning : t.app.running = true)
    {slot : Fin 8} {now : Time} (hjudges : t.app.judges clock slot now = true) {step : WizardStep}
    {capture : Capture} (hcapture : t.comparison slot step = some capture) :
    capture.Own ↔ (t.app.wizard.NeedsBase step → t.received slot = some (t.here slot)) := by
  obtain ⟨hon, rfl, -⟩ := judges_eq_true.mp hjudges
  rw [comparison] at hcapture
  split at hcapture
  next htrigger =>
    cases hcapture
    have hstick : step.isStick = false := by cases step <;> first | rfl | cases htrigger
    have hneeds : t.app.wizard.NeedsBase step ↔
        t.app.wizard.triggerStep ≠ some t.app.wizard.step := by
      simp [Wizard.NeedsBase, Wizard.needsTriggerBase, Wizard.needsAxisBase, htrigger, hstick]
    rw [hneeds, Capture.Own, nextTriggerFrom, Wizard.needsTriggerBase, htrigger]
    -- a baseline taken earlier in the step means that the slot was heard in the step; a new one
    -- says nothing of what it had sent before
    by_cases htook : t.app.wizard.triggerStep = some t.app.wizard.step
    · have hheard := hfresh.heard ⟨hrunning, hon, Or.inl htook⟩
      simp [htook, hheard, hfresh.trigger hon htook]
    · simp [htook]
  next =>
    split at hcapture
    next htrigger hstick =>
      cases hcapture
      have hneeds : t.app.wizard.NeedsBase step ↔
          t.app.wizard.axisStep ≠ some t.app.wizard.step := by
        simp [Wizard.NeedsBase, Wizard.needsTriggerBase, Wizard.needsAxisBase, htrigger, hstick]
      rw [hneeds, Capture.Own, nextAxisFrom, Wizard.needsAxisBase, hstick]
      by_cases htook : t.app.wizard.axisStep = some t.app.wizard.step
      · have hheard := hfresh.heard ⟨hrunning, hon, Or.inr htook⟩
        simp [htook, hheard, hfresh.axis hon htook]
      · simp [htook]
    next => cases hcapture

variable (clock)

section

variable (hw : t.app.wizard.WellFormed) (hrunning : t.app.running = true)

include hw hrunning

/-- What an input event does to the program and the trace. -/
theorem Traced.step_input_cases (slot : Fin 8) (fields : Fields) (now judged : Time) :
    let later := t.step clock (.event (.input slot fields) now judged)
    later.connections = t.connections ∧ later.wizards = t.wizards ∧
    later.received = Function.update t.received slot (some (t.here slot)) ∧
    ((t.app.judges clock slot judged = false ∧ later.app.wizard = t.app.wizard ∧
        later.triggerFrom = t.triggerFrom ∧ later.axisFrom = t.axisFrom ∧
        later.captures = t.captures) ∨
      t.app.judges clock slot judged = true ∧ ∃ step,
        wizardSteps[t.app.wizard.step]? = some step ∧
        later.triggerFrom = t.nextTriggerFrom slot step ∧
        later.axisFrom = t.nextAxisFrom slot step ∧
        let cur := (t.app.states slot).assign fields now
        let change := (t.app.wizard.taken step cur).change (t.app.states slot) cur step
        ((change.isSome = false ∧ later.app.wizard = t.app.wizard.taken step cur ∧
            later.captures = t.captures) ∨
          change.isSome = true ∧
          (∀ n ∈ later.app.wizard.triggerStep, n < later.app.wizard.step) ∧
          (∀ n ∈ later.app.wizard.axisStep, n < later.app.wizard.step) ∧
          later.captures = (t.comparison slot step).toList ++ t.captures)) := by
  intro later
  let cur := (t.app.states slot).assign fields now
  let updated := { t.app with states := Function.update t.app.states slot cur }
  have hupdated : updated.wizard.WellFormed := hw
  have hlater : later = { t.trace clock (.event (.input slot fields) now judged) with
      app := (updated.maybeCaptureWizard clock slot (t.app.states slot) cur judged).getD
        { t.app with running := false } } := by
    simp only [later, step, hrunning, if_true]
    unfold App.step
    simp only [hrunning, if_true]
    rfl
  have htrace (judge : Traced Time)
      (hjudge : t.judge clock slot (t.app.states slot) cur judged = judge) :
      t.trace clock (.event (.input slot fields) now judged) =
        { judge with received := Function.update t.received slot (some (t.here slot)) } := by
    rw [← hjudge]
    rfl
  -- program and trace look at the same event, so they go the same way in every case
  clear_value later
  subst hlater
  rcases maybeCaptureWizard_cases clock hupdated slot (t.app.states slot) cur judged with
    ⟨hjudges, hafter⟩ | ⟨step, hjudges, hstep, hafter⟩
  · have hjudge : t.judge clock slot (t.app.states slot) cur judged = t := by
      have hnot : t.app.judges clock slot judged = false := hjudges
      rw [judge, hnot]
      rfl
    rw [hafter, htrace t hjudge]
    exact ⟨rfl, rfl, rfl, Or.inl ⟨hjudges, rfl, rfl, rfl, rfl⟩⟩
  · have hlooks : t.app.judges clock slot judged = true := hjudges
    have hfound : wizardSteps[t.app.wizard.step]? = some step := hstep
    have hjudge : t.judge clock slot (t.app.states slot) cur judged = { t with
        triggerFrom := t.nextTriggerFrom slot step
        axisFrom := t.nextAxisFrom slot step
        captures :=
          if ((t.app.wizard.taken step cur).change (t.app.states slot) cur step).isSome then
            (t.comparison slot step).toList ++ t.captures
          else t.captures } := by
      rw [judge, if_pos hlooks, hfound]
    rw [hafter, htrace _ hjudge]
    refine ⟨rfl, rfl, rfl, Or.inr ⟨hlooks, step, hfound, rfl, rfl, ?_⟩⟩
    rcases hupdated.capture_cases step (t.app.states slot) cur judged with
      ⟨hchange, hsame⟩ | ⟨hchange, hlater, hlater'⟩
    · exact Or.inl ⟨hchange, hsame, if_neg (Bool.eq_false_iff.mp hchange)⟩
    · exact Or.inr ⟨hchange, hlater, hlater', if_pos hchange⟩

theorem Traced.fresh_input (hfresh : t.Fresh) (slot : Fin 8) (fields : Fields)
    (now judged : Time) : (t.step clock (.event (.input slot fields) now judged)).Fresh := by
  obtain ⟨hconnections, hwizards, hreceived, hcases⟩ :=
    step_input_cases clock hw hrunning slot fields now judged
  generalize t.step clock (.event (.input slot fields) now judged) = later at *
  have hhere (i : Fin 8) (hstep : later.app.wizard.step = t.app.wizard.step) :
      later.here i = t.here i := by
    rw [here, here, hconnections, hwizards, hstep]
  rcases hcases with ⟨-, hwizard, htrigger, haxis, -⟩ |
    ⟨hjudges, step, -, htrigger, haxis, ⟨-, hwizard, -⟩ | ⟨-, hlater, hlater', -⟩⟩
  · have hsame := hhere t.app.wizard.slot (by rw [hwizard])
    -- the wizard does not look at the event, but the slot is heard all the same
    refine (fresh_congr_iff hrunning hfresh _ hwizard htrigger haxis ?_).mpr fun _ => hsame
    by_cases hslot : t.app.wizard.slot = slot
    · rw [hreceived, hsame, hslot, Function.update_self]
      exact Or.inr (Or.inl rfl)
    · rw [hreceived, Function.update_of_ne hslot]
      exact Or.inl rfl
  · refine fresh_taken hfresh hjudges hwizard (hhere slot ?_) htrigger haxis ?_
    · rw [hwizard, (taken_place _ _ _).2.2]
    · rw [hreceived, Function.update_self]
  · exact fresh_of_later hlater hlater'

theorem Traced.own_input_iff (hfresh : t.Fresh) (hown : ∀ capture ∈ t.captures, capture.Own)
    (slot : Fin 8) (fields : Fields) (now judged : Time) :
    (∀ capture ∈ (t.step clock (.event (.input slot fields) now judged)).captures, capture.Own) ↔
      t.Patient clock (.event (.input slot fields) now judged) := by
  obtain ⟨-, -, -, hcases⟩ := step_input_cases clock hw hrunning slot fields now judged
  rcases hcases with ⟨hjudges, -, -, -, hsame⟩ |
    ⟨hjudges, step, hstep, -, -, ⟨hchange, -, hsame⟩ | ⟨hchange, -, -, hmore⟩⟩
  · rw [hsame]
    refine iff_of_true hown fun _ hlooks => ?_
    rw [hjudges] at hlooks
    cases hlooks
  · rw [hsame]
    refine iff_of_true hown fun _ _ found hfound hneeds hmoves => ?_
    cases Option.some.inj (hstep.symm.trans hfound)
    have hsome := (taken_change_isSome hneeds _ _).mpr hmoves
    rw [hchange] at hsome
    cases hsome
  -- a capture is added: it is the slot's own just if the event was patient
  · rw [hmore, List.forall_mem_append, and_iff_left hown]
    have hpatient : t.Patient clock (.event (.input slot fields) now judged) ↔
        (t.app.wizard.NeedsBase step → t.received slot = some (t.here slot)) := by
      constructor
      · intro hpatient hneeds
        exact hpatient hrunning hjudges step hstep hneeds
          ((taken_change_isSome hneeds _ _).mp hchange)
      · intro hsent _ _ found hfound hneeds _
        cases Option.some.inj (hstep.symm.trans hfound)
        exact hsent hneeds
    rw [hpatient]
    cases hcomparison : t.comparison slot step with
    | none =>
        -- a button step takes no baseline
        refine iff_of_true (fun _ hcapture => absurd hcapture List.not_mem_nil) fun hneeds => ?_
        exact absurd hneeds (comparison_eq_none hcomparison)
    | some capture =>
        rw [← comparison_own_iff hfresh hrunning hjudges hcomparison]
        exact List.forall_mem_singleton

/-- What a key does to the program and the trace. -/
theorem Traced.step_key_cases (ch : Nat) (now : Time) (saves : Bool) :
    let later := t.step clock (.key ch now saves)
    later.connections = t.connections ∧ later.received = t.received ∧
    later.captures = t.captures ∧ later.triggerFrom = t.triggerFrom ∧
    later.axisFrom = t.axisFrom ∧
    ((later.wizards = t.wizards ∧ ∃ slot, (∀ chosen ∈ keySlot? ch, chosen = slot) ∧
        (keySlot? ch = none → slot = t.app.wizard.slot) ∧
        later.app.wizard = { t.app.wizard with slot := slot }) ∨
      keySlot? ch = none ∧
        (∀ n ∈ later.app.wizard.triggerStep, n < later.app.wizard.step) ∧
        ∀ n ∈ later.app.wizard.axisStep, n < later.app.wizard.step) := by
  intro later
  have hlater : later = { t.trace clock (.key ch now saves) with
      app := (t.app.handleKeys clock ch now saves).getD { t.app with running := false } } := by
    simp only [later, step, hrunning, if_true]
    unfold App.step
    simp only [hrunning, if_true]
  clear_value later
  subst hlater
  have htrace : t.trace clock (.key ch now saves) =
      if startsWizard ch then { t with wizards := t.wizards + 1 } else t := rfl
  have hrest : (t.trace clock (.key ch now saves)).connections = t.connections ∧
      (t.trace clock (.key ch now saves)).received = t.received ∧
      (t.trace clock (.key ch now saves)).captures = t.captures ∧
      (t.trace clock (.key ch now saves)).triggerFrom = t.triggerFrom ∧
      (t.trace clock (.key ch now saves)).axisFrom = t.axisFrom := by
    rw [htrace]
    split <;> exact ⟨rfl, rfl, rfl, rfl, rfl⟩
  obtain ⟨hconnections, hreceived, hcaptures, htrigger, haxis⟩ := hrest
  refine ⟨hconnections, hreceived, hcaptures, htrigger, haxis, ?_⟩
  have hwizards (hother : startsWizard ch = false) :
      (t.trace clock (.key ch now saves)).wizards = t.wizards := by
    rw [htrace, hother]
    rfl
  rcases handleKeys_cases clock t.app ch now saves with ⟨hother, slot, hslot, hwizard⟩ |
    ⟨hslot, ⟨-, slot, hwizard⟩ | ⟨hother, hwizard | ⟨step, observed, status, -, hwizard⟩⟩⟩
  · refine Or.inl ⟨hwizards hother, slot, ?_, ?_, hwizard⟩
    · rintro chosen hchosen
      exact Option.some.inj (hchosen.symm.trans hslot)
    · intro hnone
      rw [hslot] at hnone
      cases hnone
  -- a new wizard has taken no baseline yet
  · refine Or.inr ⟨hslot, ?_, ?_⟩ <;> rw [hwizard] <;> intro n hn <;> cases hn
  · refine Or.inl ⟨hwizards hother, t.app.wizard.slot, ?_, fun _ => rfl, hwizard⟩
    rintro chosen hchosen
    rw [hslot] at hchosen
    cases hchosen
  · refine Or.inr ⟨hslot, ?_⟩
    rw [hwizard]
    exact hw.record_later step observed status now

theorem Traced.fresh_key_iff (hfresh : t.Fresh) (ch : Nat) (now : Time) (saves : Bool) :
    (t.step clock (.key ch now saves)).Fresh ↔ Steady t.app (.key ch now saves) := by
  obtain ⟨hconnections, hreceived, -, htrigger, haxis, hcases⟩ :=
    step_key_cases clock hw hrunning ch now saves
  generalize t.step clock (.key ch now saves) = later at *
  rcases hcases with ⟨hwizards, slot, hchosen, hnone, hwizard⟩ | ⟨hnone, hlater, hlater'⟩
  · rw [fresh_congr_iff hrunning hfresh slot hwizard htrigger haxis (Or.inl (by rw [hreceived]))]
    have hstep : later.app.wizard.step = t.app.wizard.step := by rw [hwizard]
    have hhere : later.here slot = t.here t.app.wizard.slot ↔ slot = t.app.wizard.slot := by
      rw [here, here, hconnections, hwizards, hstep]
      constructor
      · exact fun hsame => congrArg Source.slot hsame
      · rintro rfl
        rfl
    -- `slot` is the one selected from now on: that of the key, or the old one
    refine forall_congr' fun _ => hhere.trans ?_
    constructor
    · rintro rfl
      exact hchosen
    · intro hsteady
      cases hkey : keySlot? ch with
      | none => exact hnone hkey
      | some chosen =>
          rw [hkey] at hchosen hsteady
          exact (hchosen chosen rfl).symm.trans (hsteady chosen rfl)
  · refine iff_of_true (fresh_of_later hlater hlater') fun _ slot hslot => ?_
    rw [hnone] at hslot
    cases hslot

end

theorem Traced.step_connected (hrunning : t.app.running = true) (slot : Fin 8)
    (now judged : Time) :
    t.step clock (.event (.connected slot) now judged) =
      { t with app := t.app.step clock (.event (.connected slot) now judged) } :=
  if_pos hrunning

theorem Traced.step_disconnected (hrunning : t.app.running = true) (slot : Fin 8)
    (now judged : Time) :
    t.step clock (.event (.disconnected slot) now judged) =
      { t with
        app := t.app.step clock (.event (.disconnected slot) now judged)
        connections := Function.update t.connections slot (t.connections slot + 1)
        received := Function.update t.received slot none } :=
  if_pos hrunning

theorem Traced.fresh_disconnected_iff (hrunning : t.app.running = true) (hfresh : t.Fresh)
    (slot : Fin 8) (now judged : Time) :
    (t.step clock (.event (.disconnected slot) now judged)).Fresh ↔
      Steady t.app (.event (.disconnected slot) now judged) := by
  have hlater := step_disconnected clock hrunning slot now judged
  have hwizard : (t.app.step clock (.event (.disconnected slot) now judged)).wizard =
      t.app.wizard := by
    unfold App.step
    rw [if_pos hrunning]
    rfl
  have hconnection :
      (t.step clock (.event (.disconnected slot) now judged)).here t.app.wizard.slot =
      ⟨t.app.wizard.slot, Function.update t.connections slot (t.connections slot + 1)
        t.app.wizard.slot, t.wizards, t.app.wizard.step⟩ := by
    rw [hlater, here, hwizard]
  have hmoved : (t.step clock (.event (.disconnected slot) now judged)).here t.app.wizard.slot =
      t.here t.app.wizard.slot ↔ slot ≠ t.app.wizard.slot := by
    rw [hconnection, here, Source.mk.injEq]
    by_cases hslot : slot = t.app.wizard.slot
    · rw [hslot, Function.update_self]
      simp
    · rw [Function.update_of_ne (Ne.symm hslot)]
      simp [hslot]
  -- the slot's connection is counted up, so what came before is from another place
  rw [fresh_congr_iff hrunning hfresh t.app.wizard.slot
    (by rw [hlater]; exact hwizard) (by rw [hlater]) (by rw [hlater]), hmoved]
  · rfl
  · by_cases hslot : slot = t.app.wizard.slot
    · exact Or.inr (Or.inr fun hsame => hmoved.mp hsame hslot)
    · refine Or.inl ?_
      rw [hlater]
      exact Function.update_of_ne (Ne.symm hslot) _ _

/-- A step keeps the baselines the selected slot's own just if it is steady. -/
theorem Traced.fresh_step_iff (hw : t.app.wizard.WellFormed) (hfresh : t.Fresh)
    (input : Input Time) : (t.step clock input).Fresh ↔ Steady t.app input := by
  by_cases hrunning : t.app.running = true
  · cases input with
    | event event now judged =>
        cases event with
        | connected slot =>
            have hwizard : (t.step clock (.event (.connected slot) now judged)).app.wizard =
                t.app.wizard := by
              rw [step_app]
              unfold App.step
              rw [if_pos hrunning]
              rfl
            have hlater := step_connected clock hrunning slot now judged
            have hhere : (t.step clock (.event (.connected slot) now judged)).here
                t.app.wizard.slot = t.here t.app.wizard.slot := by
              rw [here, hwizard, hlater]
              rfl
            exact iff_of_true ((fresh_congr_iff hrunning hfresh t.app.wizard.slot hwizard
              (by rw [hlater]) (by rw [hlater]) (Or.inl (by rw [hlater]))).mpr fun _ => hhere)
              trivial
        | disconnected slot => exact fresh_disconnected_iff clock hrunning hfresh slot now judged
        | input slot fields =>
            exact iff_of_true (fresh_input clock hw hrunning hfresh slot fields now judged) trivial
    | key ch now saves => exact fresh_key_iff clock hw hrunning hfresh ch now saves
  · have hsame : t.step clock input = t := if_neg hrunning
    rw [hsame]
    refine iff_of_true hfresh ?_
    cases input with
    | event event now judged =>
        cases event with
        | disconnected slot => exact fun hholds => absurd hholds.1 hrunning
        | connected slot => trivial
        | input slot fields => trivial
    | key ch now saves => exact fun hholds => absurd hholds.1 hrunning

/-- What is captured from fresh baselines is judged by the slot's own values of the step just if
the input is patient. -/
theorem Traced.own_step_iff (hw : t.app.wizard.WellFormed) (hfresh : t.Fresh)
    (hown : ∀ capture ∈ t.captures, capture.Own) (input : Input Time) :
    (∀ capture ∈ (t.step clock input).captures, capture.Own) ↔ t.Patient clock input := by
  by_cases hrunning : t.app.running = true
  · cases input with
    | event event now judged =>
        cases event with
        | connected slot =>
            rw [step_connected clock hrunning]
            exact iff_of_true hown trivial
        | disconnected slot =>
            rw [step_disconnected clock hrunning]
            exact iff_of_true hown trivial
        | input slot fields =>
            exact own_input_iff clock hw hrunning hfresh hown slot fields now judged
    | key ch now saves =>
        obtain ⟨-, -, hcaptures, -⟩ := step_key_cases clock hw hrunning ch now saves
        rw [hcaptures]
        exact iff_of_true hown trivial
  · have hsame : t.step clock input = t := if_neg hrunning
    rw [hsame]
    refine iff_of_true hown ?_
    cases input with
    | event event now judged =>
        cases event with
        | input slot fields => exact fun hholds => absurd hholds hrunning
        | connected slot => trivial
        | disconnected slot => trivial
    | key ch now saves => trivial

end

/-! ## Runs -/

section

variable (logPath : String)

theorem Traced.init_wellFormed : (Traced.init clock logPath).app.wizard.WellFormed :=
  wellFormed_init clock false 0

theorem Traced.fresh_init : (Traced.init clock logPath).Fresh where
  trigger hactive := by cases hactive
  axis hactive := by cases hactive
  heard hholds := by cases hholds.2.1

/-- The results are always those of the steps so far. The wizard holds no baseline of another slot
or connection, and captures by the slot's own values of the step, just if the run is steady and its
events are patient. -/
theorem wizard_runs (inputs : List (Input Time)) :
    (∀ before, before <+: inputs →
      let w := (run (App.step clock) (App.init clock logPath) before).wizard
      w.results.map Prod.fst = wizardSteps.take w.step ∧ w.results.length = w.step ∧
        (w.active = true → w.step < wizardSteps.length)) ∧
    ((∀ before, before <+: inputs →
        let t := run (Traced.step clock) (Traced.init clock logPath) before
        t.Fresh ∧ ∀ capture ∈ t.captures, capture.Own) ↔
      Always (Traced.step clock) (fun t input => Steady t.app input ∧ t.Patient clock input)
        (Traced.init clock logPath) inputs) := by
  constructor
  · intro before _
    have hw : (run (Traced.step clock) (Traced.init clock logPath) before).app.wizard.WellFormed :=
      Machine.run_invariant (fun t : Traced Time => t.app.wizard.WellFormed)
        (fun t input hw => by rw [Traced.step_app]; exact step_wellFormed clock hw input)
        (Traced.init_wellFormed clock logPath) before
    rw [Traced.run_app] at hw
    exact ⟨hw.steps, hw.count, hw.valid⟩
  -- a step keeps both properties just if it is steady and patient, and well-formedness anyway
  · have hcaptures : ∀ capture ∈ (Traced.init clock logPath).captures, capture.Own :=
      fun capture hcapture => by cases hcapture
    refine Machine.forall_prefix_iff_always
      (fun t : Traced Time => t.Fresh ∧ ∀ capture ∈ t.captures, capture.Own)
      (fun t => t.app.wizard.WellFormed ∧ t.Fresh ∧ ∀ capture ∈ t.captures, capture.Own)
      (fun _ hall => hall.2) ?_ ?_
      ⟨Traced.init_wellFormed clock logPath, Traced.fresh_init clock logPath, hcaptures⟩
    · rintro t input - ⟨hw, hfresh, hown⟩ ⟨hsteady, hpatient⟩
      refine ⟨?_, (Traced.fresh_step_iff clock hw hfresh input).mpr hsteady,
        (Traced.own_step_iff clock hw hfresh hown input).mpr hpatient⟩
      rw [Traced.step_app]
      exact step_wellFormed clock hw input
    · rintro t input - ⟨hw, hfresh, hown⟩ ⟨hfresh', hown'⟩
      exact ⟨(Traced.fresh_step_iff clock hw hfresh input).mp hfresh',
        (Traced.own_step_iff clock hw hfresh hown input).mp hown'⟩

end

/-- A clock that counts milliseconds. -/
def millis : Clock Nat where
  zero := 0
  later first second := second < first
  cooling now ts := now < ts + 350

/-- An input event that changes nothing but, perhaps, the left trigger. -/
def leftTrigger (value : Option Int) : Fields :=
  ⟨none, value, none, none, none, none, none⟩

/-- Two slots connect, the left trigger of the second is held, a wizard comes to the step `Press LT`
and takes the first slot's baseline, and the key `2` is pressed. -/
def slotChange (first second : Fin 8) : List (Input Nat) :=
  [.event (.connected first) 1000 1000, .event (.connected second) 1000 1000,
    .event (.input second (leftTrigger (some 500))) 1100 1100, .key 'w'.toNat 1200 true] ++
  List.replicate 8 (.key 'n'.toNat 1300 true) ++
  [.event (.input first (leftTrigger none)) 2000 2000, .key '2'.toNat 2100 true,
    .event (.input second (leftTrigger none)) 2500 2500]

/-- A slot sends its resting trigger, a wizard comes to the step `Press LT`, and the first event of
that step is the trigger pulled. -/
def firstPull (slot : Fin 8) : List (Input Nat) :=
  [.event (.connected slot) 1000 1000, .event (.input slot (leftTrigger (some 0))) 1100 1100,
    .key 'w'.toNat 1200 true] ++
  List.replicate 8 (.key 'n'.toNat 1300 true) ++
  [.event (.input slot (leftTrigger (some 500))) 2000 2000]

/-- The trigger of slot 1 does not move, and is captured. That of slot 0 is captured by a value from
before the wizard. -/
theorem slotChange_captures :
    (run (App.step millis) (App.init millis "") (slotChange 0 1)).wizard.results.getLast? =
        some (.pressLt, "trigger:LT") ∧
      (run (Traced.step millis) (Traced.init millis "") (slotChange 0 1)).captures =
        [⟨⟨1, 0, 1, 8⟩, some ⟨0, 0, 1, 8⟩, some ⟨1, 0, 0, 0⟩⟩] ∧
      (¬∀ capture ∈ (run (Traced.step millis) (Traced.init millis "") (slotChange 0 1)).captures,
        capture.Own) ∧
      (run (Traced.step millis) (Traced.init millis "") (firstPull 0)).captures =
        [⟨⟨0, 0, 1, 8⟩, some ⟨0, 0, 1, 8⟩, some ⟨0, 0, 0, 0⟩⟩] ∧
      ¬∀ capture ∈ (run (Traced.step millis) (Traced.init millis "") (firstPull 0)).captures,
        capture.Own := by
  have hcaptures : (run (Traced.step millis) (Traced.init millis "") (slotChange 0 1)).captures =
      [⟨⟨1, 0, 1, 8⟩, some ⟨0, 0, 1, 8⟩, some ⟨1, 0, 0, 0⟩⟩] := by decide +kernel
  have hcaptures' : (run (Traced.step millis) (Traced.init millis "") (firstPull 0)).captures =
      [⟨⟨0, 0, 1, 8⟩, some ⟨0, 0, 1, 8⟩, some ⟨0, 0, 0, 0⟩⟩] := by decide +kernel
  refine ⟨by decide +kernel, hcaptures, fun hown => ?_, hcaptures', fun hown => ?_⟩
  · have hbase := (hown _ (by rw [hcaptures]; exact List.mem_cons_self)).1
    revert hbase
    decide
  · have hprevious := (hown _ (by rw [hcaptures']; exact List.mem_cons_self)).2
    revert hprevious
    decide

end XoneDarwin.Mapper
