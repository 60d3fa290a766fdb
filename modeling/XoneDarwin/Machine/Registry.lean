import Mathlib.Data.List.Dedup
import Mathlib.Data.List.Induction
import XoneDarwin.Machine.Run

/-!
# Numbering by arrival

A registry numbers its clients in the order in which they first show up. Numbers
are never taken back, so a client's number is its position in `arrivals`, and that
position is the same in every longer history.
-/

namespace Machine

variable {α : Type*} [DecidableEq α]

/-- A client shows up. -/
def enrol (known : List α) (client : α) : List α :=
  if client ∈ known then known else known ++ [client]

/-- The clients of a history, in the order in which they first showed up. -/
def arrivals (history : List α) : List α :=
  run enrol [] history

theorem enrol_extends (known : List α) (client : α) : known <+: enrol known client := by
  unfold enrol
  split
  · exact List.prefix_rfl
  · exact List.prefix_append known [client]

theorem mem_enrol {known : List α} {client other : α} :
    other ∈ enrol known client ↔ other ∈ known ∨ other = client := by
  unfold enrol
  split
  next hknown =>
    constructor
    · exact Or.inl
    · rintro (hother | rfl)
      · exact hother
      · exact hknown
  next => simp

theorem enrol_nodup {known : List α} (hknown : known.Nodup) (client : α) :
    (enrol known client).Nodup := by
  unfold enrol
  split
  · exact hknown
  next hnew =>
    refine List.nodup_append.mpr ⟨hknown, List.nodup_singleton client, ?_⟩
    intro other hother last hlast heq
    rw [List.mem_singleton] at hlast
    exact hnew (hlast ▸ heq ▸ hother)

theorem run_enrol_extends (known history : List α) : known <+: run enrol known history := by
  induction history generalizing known with
  | nil => exact List.prefix_rfl
  | cons client rest ih => exact (enrol_extends known client).trans (ih _)

@[simp] theorem arrivals_nil : arrivals ([] : List α) = [] := rfl

theorem arrivals_concat (history : List α) (client : α) :
    arrivals (history ++ [client]) = enrol (arrivals history) client :=
  run_concat enrol [] history client

theorem arrivals_extends (history later : List α) :
    arrivals history <+: arrivals (history ++ later) := by
  rw [arrivals, arrivals, run_append]
  exact run_enrol_extends _ later

theorem nodup_arrivals (history : List α) : (arrivals history).Nodup :=
  run_invariant List.Nodup (fun _ client hknown => enrol_nodup hknown client) List.nodup_nil history

theorem mem_arrivals {history : List α} {client : α} :
    client ∈ arrivals history ↔ client ∈ history := by
  induction history using List.reverseRecOn with
  | nil => rfl
  | append_singleton history last ih => rw [arrivals_concat, mem_enrol, ih, List.mem_append,
      List.mem_singleton]

/-- The registry holds as many clients as the history has distinct ones. -/
theorem length_arrivals (history : List α) :
    (arrivals history).length = history.dedup.length := by
  refine List.Perm.length_eq ((List.perm_ext_iff_of_nodup (nodup_arrivals history)
    history.nodup_dedup).mpr ?_)
  intro client
  rw [mem_arrivals, List.mem_dedup]

/-- A history with too many clients has a first one that exceeds the capacity. -/
theorem exists_overflow {capacity : Nat} {history : List α}
    (hmany : capacity < (arrivals history).length) :
    ∃ before client after, history = before ++ client :: after ∧
      (arrivals before).length = capacity ∧ client ∉ before := by
  induction history using List.reverseRecOn with
  | nil => exact absurd hmany (by simp)
  | append_singleton history last ih =>
      by_cases hearlier : capacity < (arrivals history).length
      · obtain ⟨before, client, after, rfl, hlength, hnew⟩ := ih hearlier
        exact ⟨before, client, after ++ [last], by simp, hlength, hnew⟩
      · rw [arrivals_concat, enrol] at hmany
        split at hmany
        · exact absurd hmany hearlier
        next hnew =>
          rw [List.length_append, List.length_singleton] at hmany
          exact ⟨history, last, [], rfl, by omega, fun hmem => hnew (mem_arrivals.mpr hmem)⟩

/-- A number, once given, stays. -/
theorem idxOf_arrivals_append {history : List α} {client : α} (hclient : client ∈ history)
    (later : List α) :
    (arrivals (history ++ later)).idxOf client = (arrivals history).idxOf client := by
  obtain ⟨newer, hnewer⟩ := arrivals_extends history later
  rw [← hnewer, List.idxOf_append_of_mem (mem_arrivals.mpr hclient)]

/-- Two clients of a history never have the same number. -/
theorem idxOf_arrivals_inj {history : List α} {client other : α} (hclient : client ∈ history)
    (heq : (arrivals history).idxOf client = (arrivals history).idxOf other) :
    client = other :=
  (List.idxOf_inj (mem_arrivals.mpr hclient)).mp heq

end Machine
