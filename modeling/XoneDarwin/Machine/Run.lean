import Mathlib.Data.List.Basic
import Mathlib.Data.List.Induction

/-!
# Runs of a deterministic machine

A machine is a step function `σ → ι → σ`; a run folds it over a list of inputs.
The rules below are the only inductions over runs: an invariant, a map onto another
machine, and a component that sees some of the inputs only.
-/

namespace Machine

variable {σ τ ι κ : Type*}

/-- The state reached from `start` after consuming `inputs` in order. -/
def run (step : σ → ι → σ) (start : σ) (inputs : List ι) : σ :=
  inputs.foldl step start

section

variable (step : σ → ι → σ) (start : σ)

@[simp] theorem run_nil : run step start [] = start := rfl

@[simp] theorem run_cons (input : ι) (rest : List ι) :
    run step start (input :: rest) = run step (step start input) rest := rfl

@[simp] theorem run_append (first second : List ι) :
    run step start (first ++ second) = run step (run step start first) second :=
  List.foldl_append

theorem run_concat (first : List ι) (last : ι) :
    run step start (first ++ [last]) = step (run step start first) last := by
  simp

end

/-- A predicate preserved by every step holds at the end of every run. -/
theorem run_invariant {step : σ → ι → σ} (invariant : σ → Prop)
    (hstep : ∀ state input, invariant state → invariant (step state input))
    {start : σ} (hstart : invariant start) (inputs : List ι) :
    invariant (run step start inputs) := by
  induction inputs generalizing start with
  | nil => exact hstart
  | cons input rest ih => exact ih (hstep start input hstart)

/-- Every step of the run, seen from the state it starts in, satisfies `P`. -/
def Always (step : σ → ι → σ) (P : σ → ι → Prop) (start : σ) (inputs : List ι) : Prop :=
  ∀ before input after, inputs = before ++ input :: after → P (run step start before) input

theorem always_cons {step : σ → ι → σ} {P : σ → ι → Prop} {start : σ} {input : ι}
    {rest : List ι} :
    Always step P start (input :: rest) ↔
      P start input ∧ Always step P (step start input) rest := by
  constructor
  · intro halways
    refine ⟨halways [] input rest rfl, ?_⟩
    intro before next after hsplit
    simpa using halways (input :: before) next after (by rw [hsplit]; rfl)
  · intro hboth before next after hsplit
    obtain ⟨hhead, htail⟩ := hboth
    cases before with
    | nil =>
        obtain ⟨rfl, -⟩ := List.cons.inj hsplit
        exact hhead
    | cons first before =>
        obtain ⟨rfl, hrest⟩ := List.cons.inj hsplit
        exact htail before next after hrest

theorem always_nil {step : σ → ι → σ} {P : σ → ι → Prop} {start : σ} :
    Always step P start [] := by
  intro before input after hsplit
  simp at hsplit

theorem always_one {step : σ → ι → σ} {P : σ → ι → Prop} {start : σ} {input : ι} :
    Always step P start [input] ↔ P start input := by
  rw [always_cons, and_iff_left always_nil]

theorem always_append {step : σ → ι → σ} {P : σ → ι → Prop} {start : σ} {first second : List ι} :
    Always step P start (first ++ second) ↔
      Always step P start first ∧ Always step P (run step start first) second := by
  induction first generalizing start with
  | nil => exact (and_iff_right always_nil).symm
  | cons input rest ih => rw [List.cons_append, always_cons, ih, always_cons, run_cons, and_assoc]

/-- What is known of the inputs is known at every step. -/
theorem Always.and_inputs {step : σ → ι → σ} {P : σ → ι → Prop} {Q : ι → Prop} {start : σ}
    {inputs : List ι} (halways : Always step P start inputs) (hinputs : ∀ input ∈ inputs, Q input) :
    Always step (fun state input => P state input ∧ Q input) start inputs := by
  intro before input after hsplit
  refine ⟨halways before input after hsplit, hinputs input ?_⟩
  rw [hsplit]
  exact List.mem_append_right _ List.mem_cons_self

/-- A condition on the inputs alone does not depend on the run. -/
theorem always_inputs_iff {step : σ → ι → σ} {Q : ι → Prop} {start : σ} {inputs : List ι} :
    Always step (fun _ input => Q input) start inputs ↔ ∀ input ∈ inputs, Q input := by
  constructor
  · intro halways input hinput
    obtain ⟨before, after, hsplit⟩ := List.append_of_mem hinput
    exact halways before input after hsplit
  · intro hinputs before input after hsplit
    refine hinputs input ?_
    rw [hsplit]
    exact List.mem_append_right _ List.mem_cons_self

/-- What every step from an invariant state satisfies, every step of a run satisfies. -/
theorem always_of_invariant {step : σ → ι → σ} {P : σ → ι → Prop} (invariant : σ → Prop)
    (hstep : ∀ state input, invariant state → invariant (step state input))
    (hP : ∀ state input, invariant state → P state input)
    {start : σ} (hstart : invariant start) (inputs : List ι) : Always step P start inputs :=
  fun before input _ _ => hP _ input (run_invariant invariant hstep hstart before)

/-- Step predicates that agree on every state satisfying an invariant agree on runs. -/
theorem always_congr {step : σ → ι → σ} {P Q : σ → ι → Prop} (invariant : σ → Prop)
    (hstep : ∀ state input, invariant state → invariant (step state input))
    (hagree : ∀ state input, invariant state → (P state input ↔ Q state input))
    {start : σ} (hstart : invariant start) (inputs : List ι) :
    Always step P start inputs ↔ Always step Q start inputs := by
  have hreach : ∀ before, invariant (run step start before) :=
    fun before => run_invariant invariant hstep hstart before
  constructor
  · intro halways before input after hsplit
    exact (hagree _ input (hreach before)).mp (halways before input after hsplit)
  · intro halways before input after hsplit
    exact (hagree _ input (hreach before)).mpr (halways before input after hsplit)

/-- An invariant that needs a condition on each step holds on runs that meet it. -/
theorem run_invariant_of_always {step : σ → ι → σ} {Q : σ → ι → Prop} (invariant : σ → Prop)
    (hstep : ∀ state input, invariant state → Q state input → invariant (step state input))
    {start : σ} (hstart : invariant start) {inputs : List ι}
    (halways : Always step Q start inputs) : invariant (run step start inputs) := by
  induction inputs generalizing start with
  | nil => exact hstart
  | cons input rest ih =>
      obtain ⟨hhead, htail⟩ := always_cons.mp halways
      exact ih (hstep start input hstart hhead) htail

/-- A mark that the run ends with was made by one of its inputs, and the rest left what that
input had written in place. -/
theorem run_since {step : σ → ι → σ} (invariant marked : σ → Prop) (E : σ → ι → Prop)
    (wrote : ι → σ → Prop)
    (hinvariant : ∀ state input, invariant state → invariant (step state input))
    (hstep : ∀ state input, invariant state → marked (step state input) →
      E state input ∧ wrote input (step state input) ∨
        marked state ∧ ∀ earlier, wrote earlier state → wrote earlier (step state input))
    {start : σ} (hstart : invariant start) (hunmarked : ¬marked start) {inputs : List ι}
    (hmarked : marked (run step start inputs)) :
    ∃ before input after, inputs = before ++ input :: after ∧ E (run step start before) input ∧
      wrote input (run step start inputs) := by
  induction inputs using List.reverseRecOn with
  | nil => exact absurd hmarked hunmarked
  | append_singleton inputs last ih =>
      have hreached := run_invariant invariant hinvariant hstart inputs
      rw [run_concat] at hmarked
      rcases hstep _ last hreached hmarked with ⟨hevent, hwrote⟩ | ⟨hbefore, hkept⟩
      · refine ⟨inputs, last, [], rfl, hevent, ?_⟩
        rw [run_concat]
        exact hwrote
      · obtain ⟨before, input, after, rfl, hevent, hwrote⟩ := ih hbefore
        refine ⟨before, input, after ++ [last], by simp, hevent, ?_⟩
        rw [run_concat]
        exact hkept input hwrote

/-- What no step regains was there at the start if it is there at the end. -/
theorem run_back {step : σ → ι → σ} (good invariant : σ → Prop)
    (hinvariant : ∀ state input, invariant state → invariant (step state input))
    (hback : ∀ state input, invariant state → good (step state input) → good state)
    {start : σ} (hstart : invariant start) {inputs : List ι}
    (hlater : good (run step start inputs)) : good start := by
  induction inputs generalizing start with
  | nil => exact hlater
  | cons input rest ih => exact hback start input hstart (ih (hinvariant start input hstart) hlater)

/-- If moreover a step from a good state keeps it good exactly if it satisfies `Q`, the runs that
end in a good state are those that always satisfy `Q`. -/
theorem run_iff_always {step : σ → ι → σ} {Q : σ → ι → Prop} (good invariant : σ → Prop)
    (hinvariant : ∀ state input, invariant state → invariant (step state input))
    (hback : ∀ state input, invariant state → good (step state input) → good state)
    (hstep : ∀ state input, invariant state → good state →
      (good (step state input) ↔ Q state input))
    {start : σ} (hstart : invariant start) (hgood : good start) (inputs : List ι) :
    good (run step start inputs) ↔ Always step Q start inputs := by
  induction inputs generalizing start with
  | nil => exact iff_of_true hgood always_nil
  | cons input rest ih =>
      have hkept := hinvariant start input hstart
      rw [run_cons, always_cons, ← hstep start input hstart hgood]
      constructor
      · intro hlater
        have hnext := run_back good invariant hinvariant hback hkept hlater
        exact ⟨hnext, (ih hkept hnext).mp hlater⟩
      · intro hboth
        obtain ⟨hnext, halways⟩ := hboth
        exact (ih hkept hnext).mpr halways

/-- If the steps that satisfy `Q` keep an invariant that makes states good, and the others lead to a
state that is not good, the runs whose states are all good are those that always satisfy `Q`. -/
theorem forall_prefix_iff_always {step : σ → ι → σ} {Q : σ → ι → Prop} (good invariant : σ → Prop)
    {inputs : List ι} (hgood : ∀ state, invariant state → good state)
    (hstep : ∀ state, ∀ input ∈ inputs, invariant state → Q state input →
      invariant (step state input))
    (hbad : ∀ state, ∀ input ∈ inputs, invariant state → good (step state input) → Q state input)
    {start : σ} (hstart : invariant start) :
    (∀ before, before <+: inputs → good (run step start before)) ↔
      Always step Q start inputs := by
  induction inputs generalizing start with
  | nil =>
      refine iff_of_true (fun before hbefore => ?_) always_nil
      rw [List.prefix_nil.mp hbefore]
      exact hgood start hstart
  | cons input rest ih =>
      have hkeep := hstep start input List.mem_cons_self hstart
      have hrest := @ih
        (fun state later hlater => hstep state later (List.mem_cons_of_mem _ hlater))
        (fun state later hlater => hbad state later (List.mem_cons_of_mem _ hlater))
      rw [always_cons]
      constructor
      · intro hall
        have hQ := hbad start input List.mem_cons_self hstart (hall [input] ⟨rest, rfl⟩)
        refine ⟨hQ, (hrest (hkeep hQ)).mp fun before hbefore => ?_⟩
        exact hall (input :: before) ((List.prefix_cons_inj input).mpr hbefore)
      · intro hboth before hbefore
        obtain ⟨hQ, halways⟩ := hboth
        cases before with
        | nil => exact hgood start hstart
        | cons first before =>
            obtain ⟨rfl, hlater⟩ := List.cons_prefix_cons.mp hbefore
            exact (hrest (hkeep hQ)).mpr halways before hlater

/-- The first step of the run that satisfies `E` satisfies `P`, if there is one. -/
def First (step : σ → ι → σ) (E P : σ → ι → Prop) : σ → List ι → Prop
  | _, [] => True
  | state, input :: rest =>
      (E state input → P state input) ∧ (¬E state input → First step E P (step state input) rest)

/-- The latest step of the run that satisfies `E` satisfies `P`, if there is one. -/
def Latest (step : σ → ι → σ) (E P : σ → ι → Prop) (start : σ) (inputs : List ι) : Prop :=
  ∀ before input after, inputs = before ++ input :: after → E (run step start before) input →
    Always step (fun state input => ¬E state input) (step (run step start before) input) after →
    P (run step start before) input

theorem latest_nil {step : σ → ι → σ} {E P : σ → ι → Prop} {start : σ} :
    Latest step E P start [] := by
  intro before input after hsplit
  simp at hsplit

/-- A step that satisfies `E` is the latest one; any other leaves the latest one what it was. -/
theorem latest_concat {step : σ → ι → σ} {E P : σ → ι → Prop} {start : σ} {inputs : List ι}
    {last : ι} : Latest step E P start (inputs ++ [last]) ↔
      (E (run step start inputs) last → P (run step start inputs) last) ∧
        (¬E (run step start inputs) last → Latest step E P start inputs) := by
  constructor
  · intro hlatest
    refine ⟨fun hlast => hlatest inputs last [] rfl hlast always_nil, fun hnot => ?_⟩
    intro before input after hsplit hE hlater
    refine hlatest before input (after ++ [last]) (by rw [hsplit]; simp) hE ?_
    rw [always_append, always_one]
    refine ⟨hlater, ?_⟩
    rwa [hsplit, run_append, run_cons] at hnot
  · rintro ⟨hlast, hearlier⟩ before input after hsplit hE hlater
    induction after using List.reverseRecOn with
    | nil =>
        obtain ⟨rfl, heq⟩ := List.append_inj' hsplit rfl
        cases heq
        exact hlast hE
    | append_singleton after final _ =>
        rw [← List.cons_append, ← List.append_assoc] at hsplit
        obtain ⟨hinputs, heq⟩ := List.append_inj' hsplit rfl
        cases heq
        obtain ⟨hlater, hfinal⟩ := always_append.mp hlater
        have hnot : ¬E (run step start inputs) last := by
          rw [hinputs, run_append, run_cons]
          exact always_one.mp hfinal
        exact hearlier hnot before input after hinputs hE hlater

/-- Refinement: a map of states that commutes with the steps from invariant states
commutes with runs. -/
theorem run_map {step : σ → ι → σ} {step' : τ → κ → τ} (view : σ → τ) (input' : ι → κ)
    (invariant : σ → Prop)
    (hkeep : ∀ state input, invariant state → invariant (step state input))
    (hstep : ∀ state input, invariant state →
      view (step state input) = step' (view state) (input' input))
    {start : σ} (hstart : invariant start) (inputs : List ι) :
    view (run step start inputs) = run step' (view start) (inputs.map input') := by
  induction inputs generalizing start with
  | nil => rfl
  | cons input rest ih =>
      rw [run_cons, ih (hkeep start input hstart), hstep start input hstart, List.map_cons,
        run_cons]

/-- Projection: a component that only relevant inputs change, by a step function of its
own, runs on the relevant inputs alone. -/
theorem run_project {step : σ → ι → σ} {step' : τ → ι → τ} (view : σ → τ) (relevant : ι → Bool)
    (invariant : σ → Prop)
    (hkeep : ∀ state input, invariant state → invariant (step state input))
    (hrelevant : ∀ state input, invariant state → relevant input = true →
      view (step state input) = step' (view state) input)
    (hother : ∀ state input, invariant state → relevant input = false →
      view (step state input) = view state)
    {start : σ} (hstart : invariant start) (inputs : List ι) :
    view (run step start inputs) = run step' (view start) (inputs.filter relevant) := by
  induction inputs generalizing start with
  | nil => rfl
  | cons input rest ih =>
      rw [run_cons, ih (hkeep start input hstart)]
      cases hinput : relevant input with
      | true =>
          rw [List.filter_cons_of_pos hinput, run_cons, hrelevant start input hstart hinput]
      | false =>
          rw [List.filter_cons_of_neg (by simp [hinput]), hother start input hstart hinput]

end Machine
