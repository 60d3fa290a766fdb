import Mathlib.Data.List.Basic
import Mathlib.Tactic.Common

/-!
# A list cut into chunks

All chunks have the same size but the last, which has what is left. Put together again
they are the list.
-/

namespace Machine

variable {α : Type*}

/-- How many chunks of `size` elements it takes for `total`. -/
def chunkCount (size total : Nat) : Nat :=
  (total + (size - 1)) / size

/-- The chunk with number `i`, counted from 0. -/
def chunkAt (size : Nat) (list : List α) (i : Nat) : List α :=
  (list.drop (i * size)).take size

theorem lt_chunkCount {size total i : Nat} (hsize : 0 < size) :
    i < chunkCount size total ↔ i * size < total := by
  rw [chunkCount, Nat.lt_div_iff_mul_lt hsize]
  omega

theorem le_chunkCount_mul {size : Nat} (hsize : 0 < size) (total : Nat) :
    total ≤ chunkCount size total * size :=
  Nat.le_of_not_lt fun hlt => absurd ((lt_chunkCount hsize).mpr hlt) (Nat.lt_irrefl _)

theorem length_chunkAt (size : Nat) (list : List α) (i : Nat) :
    (chunkAt size list i).length = min size (list.length - i * size) := by
  rw [chunkAt, List.length_take, List.length_drop]

/-- A chunk that is counted has an element. -/
theorem length_chunkAt_pos {size : Nat} {list : List α} {i : Nat} (hsize : 0 < size)
    (hi : i < chunkCount size list.length) : 0 < (chunkAt size list i).length := by
  have hstart := (lt_chunkCount hsize).mp hi
  rw [length_chunkAt]
  omega

/-- The first chunks are the front of the list. -/
theorem flatten_chunkAt_take (size : Nat) (list : List α) (k : Nat) :
    ((List.range k).map (chunkAt size list)).flatten = list.take (k * size) := by
  induction k with
  | zero => simp
  | succ k ih =>
      rw [List.range_succ, List.map_append, List.flatten_append, ih, Nat.succ_mul, List.take_add]
      simp [chunkAt]

/-- The chunks put together are the list. -/
theorem flatten_chunkAt {size : Nat} (hsize : 0 < size) (list : List α) :
    ((List.range (chunkCount size list.length)).map (chunkAt size list)).flatten = list := by
  rw [flatten_chunkAt_take]
  exact List.take_of_length_le (le_chunkCount_mul hsize list.length)

/-- What follows the list does not show in a chunk that is cut to its length. -/
theorem chunkAt_of_append {size : Nat} {list rest : List α} {i : Nat}
    (hstart : i * size ≤ list.length) :
    ((list ++ rest).drop (i * size)).take (min size (list.length - i * size)) =
      chunkAt size list i := by
  rw [List.drop_append_of_le_length hstart,
    List.take_append_of_le_length (by rw [List.length_drop]; exact Nat.min_le_right _ _), chunkAt,
    List.take_eq_take_iff, List.length_drop]
  omega

variable {β : Type*}

/-- Elements marked with their positions, chunk by chunk. -/
theorem mapIdx_chunkAt {size : Nat} (hsize : 0 < size) (list : List α) (mark : Nat → α → β) :
    list.mapIdx mark =
      ((List.range (chunkCount size list.length)).map fun i =>
        (chunkAt size list i).mapIdx fun x => mark (x + i * size)).flatten := by
  suffices htake : ∀ k ≤ chunkCount size list.length, (list.take (k * size)).mapIdx mark =
      ((List.range k).map fun i =>
        (chunkAt size list i).mapIdx fun x => mark (x + i * size)).flatten by
    rw [← htake _ (Nat.le_refl _), List.take_of_length_le (le_chunkCount_mul hsize list.length)]
  intro k
  induction k with
  | zero => simp
  | succ k ih =>
      intro hk
      have hstart := (lt_chunkCount hsize).mp hk
      rw [Nat.succ_mul, List.take_add, List.mapIdx_append, ih (Nat.le_of_lt hk), List.range_succ,
        List.map_append, List.flatten_append, List.length_take,
        Nat.min_eq_left (Nat.le_of_lt hstart)]
      simp [chunkAt]

/-- Lists put together from pieces of the same lengths are the same piece by piece. -/
theorem flatten_range_inj {f g : Nat → List α} {n : Nat}
    (hlengths : ∀ i < n, (f i).length = (g i).length) :
    ((List.range n).map f).flatten = ((List.range n).map g).flatten ↔ ∀ i < n, f i = g i := by
  induction n with
  | zero => simp
  | succ n ih =>
      have hlast := hlengths n (Nat.lt_succ_self n)
      have hearlier := ih fun i hi => hlengths i (Nat.lt_succ_of_lt hi)
      simp only [List.range_succ, List.map_append, List.flatten_append, List.map_cons,
        List.map_nil, List.flatten_cons, List.flatten_nil, List.append_nil]
      constructor
      · intro hsame i hi
        obtain ⟨hfront, hback⟩ := List.append_inj' hsame hlast
        rcases Nat.lt_succ_iff_lt_or_eq.mp hi with hi | rfl
        · exact hearlier.mp hfront i hi
        · exact hback
      · intro hall
        rw [hearlier.mpr fun i hi => hall i (Nat.lt_succ_of_lt hi), hall n (Nat.lt_succ_self n)]

end Machine
