import Mathlib.Logic.Function.Basic
import XoneDarwin.Machine.Run

/-!
# Traces of calls

A machine makes calls while it runs, each for some key. An acceptor says what may be
called in which phase of one key; a run is accepted for every key if each step is, from
every phase that the state allows.
-/

namespace Machine

variable {σ ι κ α φ : Type*}

/-! ## Acceptors -/

/-- The phase that a trace leads to; none if a call is out of place. -/
def accept (next : φ → α → Option φ) (phase : φ) (trace : List α) : Option φ :=
  trace.foldlM next phase

@[simp] theorem accept_nil (next : φ → α → Option φ) (phase : φ) :
    accept next phase [] = some phase := rfl

@[simp] theorem accept_cons (next : φ → α → Option φ) (phase : φ) (call : α) (rest : List α) :
    accept next phase (call :: rest) =
      (next phase call).bind fun later => accept next later rest := rfl

theorem accept_append (next : φ → α → Option φ) (phase : φ) (first second : List α) :
    accept next phase (first ++ second) =
      (accept next phase first).bind fun later => accept next later second :=
  List.foldlM_append

/-! ## Calls of a run -/

/-- The calls along a run, in order. -/
def emitted (step : σ → ι → σ) (emit : σ → ι → List α) : σ → List ι → List α
  | _, [] => []
  | state, input :: rest => emit state input ++ emitted step emit (step state input) rest

theorem emitted_concat (step : σ → ι → σ) (emit : σ → ι → List α) (start : σ) (inputs : List ι)
    (last : ι) : emitted step emit start (inputs ++ [last]) =
      emitted step emit start inputs ++ emit (run step start inputs) last := by
  induction inputs generalizing start with
  | nil => simp [emitted]
  | cons input rest ih => simp [emitted, ih]

/-- The calls for one key. -/
def callsOf [DecidableEq κ] (key : κ) (trace : List (κ × α)) : List α :=
  trace.filterMap fun call => if call.1 = key then some call.2 else none

section

variable [DecidableEq κ]

@[simp] theorem callsOf_nil (key : κ) : callsOf key ([] : List (κ × α)) = [] := rfl

@[simp] theorem callsOf_append (key : κ) (first second : List (κ × α)) :
    callsOf key (first ++ second) = callsOf key first ++ callsOf key second :=
  List.filterMap_append

theorem callsOf_tagged (key other : κ) (calls : List α) :
    callsOf key (calls.map (Prod.mk other)) = if other = key then calls else [] := by
  induction calls with
  | nil => simp
  | cons call rest ih =>
      rw [List.map_cons, callsOf, List.filterMap_cons]
      change (match (if other = key then some call else none) with
        | none => callsOf key (rest.map (Prod.mk other))
        | some b => b :: callsOf key (rest.map (Prod.mk other))) = _
      rw [ih]
      split_ifs <;> rfl

/-- Simulation: if every step is accepted from each phase that goes with its state, and ends in
one that goes with the next state, so does every run. -/
theorem emitted_accept {step : σ → ι → σ} {emit : σ → ι → List (κ × α)}
    (next : κ → φ → α → Option φ) (R : σ → κ → φ → Prop) (invariant : σ → Prop)
    (hkeep : ∀ state input, invariant state → invariant (step state input))
    (hstep : ∀ state input key phase, invariant state → R state key phase →
      ∃ later, accept (next key) phase (callsOf key (emit state input)) = some later ∧
        R (step state input) key later)
    {start : σ} (hstart : invariant start) {key : κ} {phase : φ} (hphase : R start key phase)
    (inputs : List ι) :
    ∃ later, accept (next key) phase (callsOf key (emitted step emit start inputs)) = some later ∧
      R (run step start inputs) key later := by
  induction inputs generalizing start phase with
  | nil => exact ⟨phase, rfl, hphase⟩
  | cons input rest ih =>
      obtain ⟨middle, haccept, hmiddle⟩ := hstep start input key phase hstart hphase
      obtain ⟨later, hrest, hlater⟩ := ih (hkeep start input hstart) hmiddle
      refine ⟨later, ?_, hlater⟩
      rw [emitted, callsOf_append, accept_append, haccept]
      exact hrest

end

/-- What the latest input that has something to say says. -/
def lastOf (read : ι → Option α) (inputs : List ι) : Option α :=
  inputs.reverse.findSome? read

@[simp] theorem lastOf_nil (read : ι → Option α) : lastOf read [] = none := rfl

theorem lastOf_concat (read : ι → Option α) (inputs : List ι) (last : ι) :
    lastOf read (inputs ++ [last]) = (read last).or (lastOf read inputs) := by
  rw [lastOf, List.reverse_concat, List.findSome?_cons, lastOf]
  cases read last <;> rfl

/-! ## Tables -/

section

variable [DecidableEq κ]

/-- A table after some entries were written into it. -/
def written (entries : List (κ × α)) (table : κ → Option α) : κ → Option α :=
  entries.foldl (fun t entry => Function.update t entry.1 (some entry.2)) table

theorem written_apply {entries : List (κ × α)} (hkeys : (entries.map Prod.fst).Nodup)
    (table : κ → Option α) (key : κ) :
    written entries table key = (entries.lookup key).or (table key) := by
  induction entries generalizing table with
  | nil => rfl
  | cons entry rest ih =>
      obtain ⟨habsent, hrest⟩ := List.nodup_cons.mp hkeys
      rw [written, List.foldl_cons, ← written, ih hrest, List.lookup_cons]
      by_cases hkey : key = entry.1
      · have hnone : rest.lookup key = none := by
          refine List.lookup_eq_none_iff.mpr fun other hother => ?_
          have hne : key ≠ other.1 := fun heq =>
            habsent (hkey ▸ heq ▸ List.mem_map_of_mem hother)
          exact bne_iff_ne.mpr hne
        rw [hnone, Option.none_or, hkey, Function.update_self, beq_self_eq_true]
        rfl
      · rw [beq_eq_false_iff_ne.mpr hkey, Function.update_of_ne hkey]

/-- Entries with the same keys take the place of those written before. -/
theorem written_lookup {entries before : List (κ × α)} (hkeys : (entries.map Prod.fst).Nodup)
    (hsame : entries.map Prod.fst = before.map Prod.fst) :
    written entries (before.lookup ·) = (entries.lookup ·) := by
  funext key
  rw [written_apply hkeys]
  cases hfound : entries.lookup key with
  | some value => rfl
  | none =>
      rw [Option.none_or, List.lookup_eq_none_iff]
      intro other hother
      have hmem : other.1 ∈ entries.map Prod.fst := hsame ▸ List.mem_map_of_mem hother
      obtain ⟨entry, hentry, heq⟩ := List.mem_map.mp hmem
      exact heq ▸ List.lookup_eq_none_iff.mp hfound entry hentry

end

/-! ## Logs -/

/-- What a log, newest entry first, has gained; oldest first. -/
def fresh (before after : List α) : List α :=
  (after.take (after.length - before.length)).reverse

@[simp] theorem fresh_append (new before : List α) : fresh before (new ++ before) = new.reverse := by
  simp [fresh]

@[simp] theorem fresh_self (log : List α) : fresh log log = [] := by
  simp [fresh]

@[simp] theorem fresh_cons (entry : α) (before : List α) :
    fresh before (entry :: before) = [entry] :=
  fresh_append [entry] before

/-- A log that only grows is what the run has called. -/
theorem log_run {β : Type*} {step : σ → ι → σ} {emit : σ → ι → List α} (entry : α → β)
    (log : σ → List β) (invariant : σ → Prop)
    (hkeep : ∀ state input, invariant state → invariant (step state input))
    (hstep : ∀ state input, invariant state →
      log (step state input) = ((emit state input).map entry).reverse ++ log state)
    {start : σ} (hstart : invariant start) (inputs : List ι) :
    log (run step start inputs) =
      ((emitted step emit start inputs).map entry).reverse ++ log start := by
  induction inputs generalizing start with
  | nil => rfl
  | cons input rest ih =>
      rw [run_cons, ih (hkeep start input hstart), hstep start input hstart, emitted,
        List.map_append, List.reverse_append, List.append_assoc]

end Machine
