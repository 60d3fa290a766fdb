import XoneDarwin.Bridge.Mirror
import XoneDarwin.Machine.Traces

/-!
# What the daemon has told

The pad events of a run, and what each controller has reported since it was connected.
-/

namespace XoneDarwin

open Machine (callsOf emitted run)

/-- What a controller has reported since it was connected last. -/
structure Since where
  active : Bool := false
  first : Option GipInput := none
  last : Option GipInput := none

namespace Since

def next (since : Since) : PadEvent → Since
  | .connect => if since.active then since else { active := true }
  | .disconnect => if since.active then {} else since
  | .input g =>
      if since.active then { since with first := since.first.or (some g), last := some g } else since
  | .guide _ => since

/-- Either nothing was reported, or there is a first and a last input. -/
def WF (since : Since) : Prop :=
  since.first.isSome = since.last.isSome

theorem WF.next {since : Since} (hwf : since.WF) (event : PadEvent) : (since.next event).WF := by
  unfold Since.next
  cases event with
  | connect =>
      dsimp only
      split
      · exact hwf
      · rfl
  | disconnect =>
      dsimp only
      split
      · rfl
      · exact hwf
  | input g =>
      dsimp only
      split
      · cases since.first <;> rfl
      · exact hwf
  | guide pressed => exact hwf

/-- What the daemon does not tell does not count. -/
theorem next_untold {since : Since} {pad : Pad} (hactive : since.active = pad.active)
    {event : PadEvent} (htells : pad.tells event = false) : since.next event = since := by
  cases event with
  | connect =>
      have hin : since.active = true := by
        rw [hactive]
        simpa [Pad.tells] using htells
      rw [next, if_pos hin]
  | disconnect =>
      have hidle : since.active = false := hactive.trans htells
      rw [next, if_neg (by simp [hidle])]
  | input g =>
      have hidle : since.active = false := hactive.trans htells
      rw [next, if_neg (by simp [hidle])]
  | guide pressed => rfl

theorem next_active (since : Since) {pad : Pad} (hactive : since.active = pad.active)
    (event : PadEvent) : (since.next event).active = (pad.apply event).active := by
  unfold next
  cases event with
  | connect =>
      rw [Pad.apply_active]
      dsimp only
      split
      · assumption
      · rfl
  | disconnect =>
      rw [Pad.apply_active]
      dsimp only
      split
      · rfl
      · exact Bool.eq_false_of_not_eq_true ‹_›
  | input g =>
      rw [Pad.apply_active]
      dsimp only
      split <;> exact hactive
  | guide pressed =>
      rw [Pad.apply_active]
      exact hactive

end Since

/-! ## All slots -/

/-- The reports of all slots after some pad events. -/
def sinceAfter (since : Fin maxSlots → Since) (calls : List (Fin maxSlots × PadEvent))
    (s : Fin maxSlots) : Since :=
  run Since.next (since s) (callsOf s calls)

theorem sinceAfter_append (since : Fin maxSlots → Since)
    (first second : List (Fin maxSlots × PadEvent)) :
    sinceAfter since (first ++ second) = sinceAfter (sinceAfter since first) second := by
  funext s
  rw [sinceAfter, Machine.callsOf_append, Machine.run_append]
  rfl

theorem sinceAfter_one (since : Fin maxSlots → Since) (s : Fin maxSlots) (event : PadEvent)
    (r : Fin maxSlots) : sinceAfter since [(s, event)] r =
      if r = s then (since s).next event else since r := by
  by_cases hr : r = s
  · subst hr
    rw [if_pos rfl, sinceAfter, callsOf, List.filterMap_cons, if_pos rfl]
    rfl
  · rw [if_neg hr, sinceAfter, callsOf, List.filterMap_cons, if_neg (Ne.symm hr)]
    rfl

/-- A slot has reports to show while its pad is in use. -/
theorem sinceAfter_active {since : Fin maxSlots → Since} {pads : Pads}
    (hactive : ∀ s, (since s).active = (pads.view s).active) (host : Host) (eventUdp : Bool)
    (s : Fin maxSlots) (event : PadEvent) (r : Fin maxSlots) :
    (sinceAfter since [(s, event)] r).active =
      ((pads.handle host eventUdp (s, event)).view r).active := by
  rw [sinceAfter_one, view_handle]
  by_cases hr : r = s
  · subst hr
    rw [if_pos rfl, Function.update_self]
    exact (since r).next_active (hactive r) event
  · rw [if_neg hr, Function.update_of_ne hr]
    exact hactive r

/-! ## Runs -/

section

variable (world : World)

/-- The pad events of a step. -/
def Daemon.padCalls (daemon : Daemon) (step : Step) : List (Fin maxSlots × PadEvent) :=
  daemon.table.padEvents (step.stimulus world.env daemon.air.ourMac)

/-- The pad events of a run. -/
def padTrace (boot : Daemon) (steps : List Step) : List (Fin maxSlots × PadEvent) :=
  emitted (Daemon.step world) (Daemon.padCalls world) boot steps

end

end XoneDarwin
