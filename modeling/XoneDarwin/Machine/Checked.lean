import Mathlib.Algebra.Order.Group.Int
import Mathlib.Tactic.Common
import XoneDarwin.Machine.Run

/-!
# Signed integers that must not overflow

A result that does not fit its type has no meaning, so a computation is a chain of
checked steps and has a result where every step fits. A run of such computations
ends at the first of them that has no result.
-/

namespace Machine

/-- A signed integer type, by its ends. -/
structure SignedType where
  least : Int
  greatest : Int

namespace SignedType

def int16 : SignedType := ⟨-0x8000, 0x7fff⟩
def int : SignedType := ⟨-0x80000000, 0x7fffffff⟩
def long : SignedType := ⟨-0x8000000000000000, 0x7fffffffffffffff⟩

def Holds (type : SignedType) (x : Int) : Prop :=
  type.least ≤ x ∧ x ≤ type.greatest

instance (type : SignedType) (x : Int) : Decidable (type.Holds x) :=
  inferInstanceAs (Decidable (_ ∧ _))

/-- A result of the type, none where it does not fit. -/
def check (type : SignedType) (x : Int) : Option Int :=
  if type.Holds x then some x else none

theorem check_eq {type : SignedType} {x : Int} (hx : type.Holds x) : type.check x = some x :=
  if_pos hx

/-- What follows a check starts from the exact value. -/
theorem check_bind_eq_some {α : Type*} {type : SignedType} {x : Int} {f : Int → Option α} {y : α} :
    (type.check x).bind f = some y ↔ type.Holds x ∧ f x = some y := by
  unfold check
  split
  next hx => exact (and_iff_right hx).symm
  next hx => exact iff_of_false (by simp) fun hboth => hx hboth.1

end SignedType

/-! ## Runs -/

variable {σ ι : Type*}

/-- A run that ends at the first step without a result. -/
def runChecked (checked : σ → ι → Option σ) (start : σ) (inputs : List ι) : Option σ :=
  inputs.foldlM checked start

/-- If the checked step is the exact one wherever `P` holds, a run of checked steps is the exact run
wherever `P` holds throughout. -/
theorem runChecked_eq_some_iff {step : σ → ι → σ} {checked : σ → ι → Option σ} {P : σ → ι → Prop}
    (invariant : σ → Prop) (hkeep : ∀ state input, invariant state → invariant (step state input))
    (hchecked : ∀ state input, invariant state →
      ∀ after, checked state input = some after ↔ P state input ∧ after = step state input)
    {start : σ} (hstart : invariant start) (inputs : List ι) (after : σ) :
    runChecked checked start inputs = some after ↔
      Always step P start inputs ∧ after = run step start inputs := by
  unfold runChecked
  induction inputs generalizing start with
  | nil =>
      rw [and_iff_right always_nil]
      exact Option.some_inj.trans eq_comm
  | cons input rest ih =>
      rw [List.foldlM_cons, always_cons, run_cons, Option.bind_eq_bind, Option.bind_eq_some_iff]
      constructor
      · rintro ⟨next, hnext, hrest⟩
        obtain ⟨hhead, rfl⟩ := (hchecked start input hstart next).mp hnext
        obtain ⟨htail, hafter⟩ := (ih (hkeep start input hstart)).mp hrest
        exact ⟨⟨hhead, htail⟩, hafter⟩
      · rintro ⟨⟨hhead, htail⟩, hafter⟩
        exact ⟨_, (hchecked start input hstart _).mpr ⟨hhead, rfl⟩,
          (ih (hkeep start input hstart)).mpr ⟨htail, hafter⟩⟩

end Machine
