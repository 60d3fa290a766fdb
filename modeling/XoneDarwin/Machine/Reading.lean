import Mathlib.Data.List.Basic
import Mathlib.Tactic.Common

/-!
# Computations that record what they read

A `Reading` has a value and the addresses it read on the way. `Within limit v r`
says that `r` yields `v` and reads addresses below `limit` only; the rules take it
apart along sequencing, branching and guards.
-/

namespace Machine

/-- A value and the addresses read for it, in order. -/
structure Reading (α : Type) where
  val : α
  reads : List Nat

namespace Reading

instance : Monad Reading where
  pure a := ⟨a, []⟩
  bind r f := ⟨(f r.val).val, r.reads ++ (f r.val).reads⟩

variable {α β : Type}

/-- One cell of a memory. -/
def cell (memory : Nat → α) (addr : Nat) : Reading α :=
  ⟨memory addr, [addr]⟩

/-- `count` cells from `start` on. -/
def cells (memory : Nat → α) (start : Nat) : Nat → Reading (List α)
  | 0 => pure []
  | count + 1 => do
      let first ← cell memory start
      let rest ← cells memory (start + 1) count
      pure (first :: rest)

/-- A test behind a guard: nothing is read unless the guard holds. -/
def guarded (guard : Bool) (test : Reading Bool) : Reading Bool :=
  if guard then test else pure false

@[simp] theorem val_pure (a : α) : (Pure.pure a : Reading α).val = a := rfl

@[simp] theorem val_bind (r : Reading α) (f : α → Reading β) :
    (r >>= f).val = (f r.val).val := rfl

/-! ## Bounds on what is read -/

/-- `r` reads only below `limit`. -/
def Below (limit : Nat) (r : Reading α) : Prop :=
  ∀ addr ∈ r.reads, addr < limit

section

variable {limit : Nat}

@[simp] theorem below_pure (a : α) : Below limit (Pure.pure a : Reading α) :=
  fun _ haddr => absurd haddr List.not_mem_nil

@[simp] theorem below_cell {memory : Nat → α} {addr : Nat} :
    Below limit (cell memory addr) ↔ addr < limit :=
  List.forall_mem_singleton

/-- Sequencing: both parts read below the limit. -/
@[simp] theorem below_bind {r : Reading α} {f : α → Reading β} :
    Below limit (r >>= f) ↔ Below limit r ∧ Below limit (f r.val) :=
  List.forall_mem_append

end

/-- `r` yields `v` and reads only below `limit`. -/
structure Within (limit : Nat) (v : α) (r : Reading α) : Prop where
  below : ∀ addr ∈ r.reads, addr < limit
  val : r.val = v

namespace Within

variable {limit : Nat}

theorem pure (limit : Nat) (v : α) : Within limit v (Pure.pure v : Reading α) where
  below := fun _ haddr => absurd haddr List.not_mem_nil
  val := rfl

theorem cell (memory : Nat → α) {addr : Nat} (haddr : addr < limit) :
    Within limit (memory addr) (Reading.cell memory addr) where
  below := by
    intro other hother
    rwa [List.mem_singleton.mp hother]
  val := rfl

/-- Sequencing: the rest goes on from the value read first. -/
theorem bind {v : α} {w : β} {r : Reading α} {f : α → Reading β} (hr : Within limit v r)
    (hf : Within limit w (f v)) : Within limit w (r >>= f) := by
  obtain ⟨hbelow, rfl⟩ := hr
  refine ⟨fun addr haddr => ?_, hf.val⟩
  exact (List.mem_append.mp haddr).elim (hbelow addr) (hf.below addr)

/-- Branching: each branch under its own condition. -/
theorem ite {p : Prop} [Decidable p] {v w : α} {r s : Reading α}
    (hpos : p → Within limit v r) (hneg : ¬p → Within limit w s) :
    Within limit (if p then v else w) (if p then r else s) := by
  split
  next hp => exact hpos hp
  next hp => exact hneg hp

/-- A guarded test may rely on its guard. -/
theorem guarded {guard v : Bool} {test : Reading Bool}
    (htest : guard = true → Within limit v test) :
    Within limit (guard && v) (Reading.guarded guard test) := by
  cases guard with
  | true => exact htest rfl
  | false => exact Within.pure limit false

theorem cells (memory : Nat → α) {start count : Nat} (hend : start + count ≤ limit) :
    ∃ values, Within limit values (Reading.cells memory start count) := by
  induction count generalizing start with
  | zero => exact ⟨[], Within.pure limit []⟩
  | succ count ih =>
      obtain ⟨values, hvalues⟩ := ih (by omega : start + 1 + count ≤ limit)
      refine ⟨memory start :: values, ?_⟩
      apply Within.bind (Within.cell memory (by omega))
      exact hvalues.bind (Within.pure limit _)

end Within

end Reading

end Machine
