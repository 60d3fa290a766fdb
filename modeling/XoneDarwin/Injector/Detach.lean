import Mathlib.Data.List.FinRange
import Mathlib.Data.List.Nodup
import XoneDarwin.Injector.Desk

/-!
# Detaching the right joystick

SDL3's ids last. SDL2's are positions, and nothing moves them when a joystick further
in front is detached: of two slots in use the one that was connected last has to be
disconnected first.
-/

namespace XoneDarwin

open Machine (Always run)

/-! ## The slots in use, by age -/

/-- The slots in use, the one connected first in front. A slot is marked when another has left
from in front of it. -/
abbrev Queue := List (Fin maxSlots × Bool)

namespace Queue

variable (active : Fin maxSlots → Bool)

/-- Slots that are not in use leave. -/
def leave : Bool → Queue → Queue
  | _, [] => []
  | left, (i, marked) :: rest =>
      if active i then (i, marked || left) :: leave left rest else leave true rest

/-- The slots in use that were not before. -/
def joining (queue : Queue) : Queue :=
  ((List.finRange maxSlots).filter fun i => active i ∧ i ∉ queue.map Prod.fst).map (·, false)

/-- Those that are still in use, and those that are now. -/
def next (queue : Queue) : Queue :=
  leave active false queue ++ joining active queue

variable {active} {queue : Queue}

theorem leave_kept (left : Bool) (hactive : ∀ e ∈ queue, active e.1 = true) :
    leave active left queue = queue.map fun e => (e.1, e.2 || left) := by
  induction queue with
  | nil => rfl
  | cons e rest ih =>
      obtain ⟨i, marked⟩ := e
      rw [leave, if_pos (hactive _ List.mem_cons_self), List.map_cons,
        ih fun e he => hactive e (List.mem_cons_of_mem _ he)]

theorem leave_false (hactive : ∀ e ∈ queue, active e.1 = true) :
    leave active false queue = queue := by
  rw [leave_kept false hactive]
  simp

/-- One slot leaves. -/
theorem leave_one {front back : Queue} {i : Fin maxSlots} {marked : Bool}
    (hfront : ∀ e ∈ front, active e.1 = true) (hi : active i = false)
    (hback : ∀ e ∈ back, active e.1 = true) :
    leave active false (front ++ (i, marked) :: back) =
      front ++ back.map fun e => (e.1, true) := by
  induction front with
  | nil => rw [List.nil_append, leave, hi, if_neg Bool.false_ne_true, leave_kept true hback]; simp
  | cons e rest ih =>
      obtain ⟨j, later⟩ := e
      rw [List.cons_append, leave, if_pos (hfront _ List.mem_cons_self), Bool.or_false,
        ih fun e he => hfront e (List.mem_cons_of_mem _ he), List.cons_append]

theorem joining_none (hactive : ∀ i, active i = true → i ∈ queue.map Prod.fst) :
    joining active queue = [] := by
  rw [joining, List.map_eq_nil_iff, List.filter_eq_nil_iff]
  intro i _ hi
  obtain ⟨hin, hnew⟩ := of_decide_eq_true hi
  exact hnew (hactive i hin)

theorem joining_one {i : Fin maxSlots}
    (hactive : ∀ j, active j = true ∧ j ∉ queue.map Prod.fst ↔ j = i) :
    joining active queue = [(i, false)] := by
  have hfilter : (List.finRange maxSlots).filter
      (fun j => active j ∧ j ∉ queue.map Prod.fst) = [i] := by
    have hsame : (List.finRange maxSlots).filter (fun j => active j ∧ j ∉ queue.map Prod.fst) =
        (List.finRange maxSlots).filter (· == i) := by
      refine List.filter_congr fun j _ => ?_
      rw [decide_eq_decide.mpr (hactive j), beq_eq_decide]
    rw [hsame, List.filter_beq,
      List.count_eq_one_of_mem (List.nodup_finRange _) (List.mem_finRange i)]
    rfl
  rw [joining, hfilter]
  rfl

end Queue

/-! ## Joysticks in a row -/

/-- A slot's id is its position, or a position further back if it is marked. -/
def Placed (grips : Fin maxSlots → Grip) : Int → Queue → Prop
  | _, [] => True
  | position, (i, marked) :: rest =>
      position ≤ (grips i).instanceId ∧ (marked = false ↔ (grips i).instanceId = position) ∧
        Placed grips (position + 1) rest

section

variable {grips grips' : Fin maxSlots → Grip} {front back : Queue}

theorem placed_append {position : Int} :
    Placed grips position (front ++ back) ↔
      Placed grips position front ∧ Placed grips (position + front.length) back := by
  induction front generalizing position with
  | nil => simp [Placed]
  | cons e rest ih =>
      have hlength : position + 1 + rest.length = position + (e :: rest).length := by
        rw [List.length_cons]
        omega
      rw [List.cons_append, Placed, Placed, ih, hlength, and_assoc, and_assoc]

theorem Placed.congr {position : Int} (hplaced : Placed grips position back)
    (hsame : ∀ e ∈ back, grips' e.1 = grips e.1) : Placed grips' position back := by
  induction back generalizing position with
  | nil => trivial
  | cons e rest ih =>
      obtain ⟨hle, hmarked, hrest⟩ := hplaced
      rw [Placed, hsame _ List.mem_cons_self]
      exact ⟨hle, hmarked, ih hrest fun e he => hsame e (List.mem_cons_of_mem _ he)⟩

/-- Everybody moves up by one. -/
theorem Placed.move_up {position : Int} (hplaced : Placed grips (position + 1) back) :
    Placed grips position (back.map fun e => (e.1, true)) := by
  induction back generalizing position with
  | nil => trivial
  | cons e rest ih =>
      obtain ⟨hle, _, hrest⟩ := hplaced
      refine ⟨by omega, iff_of_false (by decide) (by omega), ih hrest⟩

end

/-- The joysticks stand in a row as the slots in use do, each under the id that its slot
remembers unless the slot is marked. -/
structure Desk.Lined (desk : Desk) (queue : Queue) : Prop where
  fresh : desk.sdl.Fresh
  once : desk.sdl.virtuals.Nodup
  single : (queue.map Prod.fst).Nodup
  inUse : ∀ i, (desk.grips i).active = true ↔ i ∈ queue.map Prod.fst
  joys : queue.map (fun e => (desk.grips e.1).joy) = desk.sdl.virtuals.map some
  ready : queue ≠ [] → desk.api.isSome = true
  lasting : desk.api = some .sdl3 → ∀ i joy, (desk.grips i).active = true →
    (desk.grips i).joy = some joy → (desk.grips i).instanceId = joy
  placed : desk.api = some .sdl2 → Placed desk.grips desk.sdl.others queue

/-- The virtual joysticks are those of the slots in use, one each. -/
structure Desk.Matched (desk : Desk) : Prop where
  held : ∀ i, (desk.grips i).active = true →
    ∃ joy ∈ desk.sdl.virtuals, (desk.grips i).joy = some joy
  owned : ∀ joy ∈ desk.sdl.virtuals, ∃ i, (desk.grips i).active = true ∧
    (desk.grips i).joy = some joy
  apart : ∀ i j, (desk.grips i).active = true → (desk.grips j).active = true →
    (desk.grips i).joy = (desk.grips j).joy → i = j
  once : desk.sdl.virtuals.Nodup

namespace Desk.Lined

variable {desk : Desk} {queue : Queue}

theorem mem_active (hlined : desk.Lined queue) {e : Fin maxSlots × Bool} (he : e ∈ queue) :
    (desk.grips e.1).active = true :=
  (hlined.inUse e.1).mpr (List.mem_map_of_mem he)

theorem matched (hlined : desk.Lined queue) : desk.Matched where
  held := by
    intro i hi
    obtain ⟨e, he, rfl⟩ := List.mem_map.mp ((hlined.inUse i).mp hi)
    have hjoy : (desk.grips e.1).joy ∈ desk.sdl.virtuals.map some :=
      hlined.joys ▸ List.mem_map_of_mem he
    obtain ⟨joy, hmem, hsame⟩ := List.mem_map.mp hjoy
    exact ⟨joy, hmem, hsame.symm⟩
  owned := by
    intro joy hmem
    have hjoy : some joy ∈ queue.map fun e => (desk.grips e.1).joy :=
      hlined.joys ▸ List.mem_map_of_mem hmem
    obtain ⟨e, he, hsame⟩ := List.mem_map.mp hjoy
    exact ⟨e.1, hlined.mem_active he, hsame⟩
  apart := by
    intro i j hi hj hsame
    obtain ⟨e, he, rfl⟩ := List.mem_map.mp ((hlined.inUse i).mp hi)
    obtain ⟨f, hf, rfl⟩ := List.mem_map.mp ((hlined.inUse j).mp hj)
    have hnodup : (queue.map fun e => (desk.grips e.1).joy).Nodup :=
      hlined.joys ▸ hlined.once.map (Option.some_injective _)
    exact congrArg Prod.fst (List.inj_on_of_nodup_map hnodup he hf hsame)
  once := hlined.once

theorem queue_ne_nil (hlined : desk.Lined queue) {i : Fin maxSlots}
    (hi : (desk.grips i).active = true) : queue ≠ [] := by
  rintro rfl
  exact absurd ((hlined.inUse i).mp hi) List.not_mem_nil

/-- The queue of slots that are all still in use, and of no others. -/
theorem next_same (hlined : desk.Lined queue) :
    queue.next (fun i => (desk.grips i).active) = queue := by
  rw [Queue.next, Queue.leave_false fun e he => hlined.mem_active he,
    Queue.joining_none fun i => (hlined.inUse i).mp, List.append_nil]

/-- A slot that was not in use joins the row with a new joystick. -/
theorem attach (hlined : desk.Lined queue) {i : Fin maxSlots} {api : SdlApi}
    (hapi : queue ≠ [] → some api = desk.api) (hfree : (desk.grips i).active = false) :
    Desk.Lined ⟨some api,
      Function.update desk.grips i
        ⟨true, (desk.sdl.attachVirtual api).1, some desk.sdl.nextInstance⟩,
      (desk.sdl.attachVirtual api).2⟩ (queue ++ [(i, false)]) := by
  have hnew : i ∉ queue.map Prod.fst := by
    rw [← hlined.inUse, hfree]
    decide
  have hother {g : Grip} {e : Fin maxSlots × Bool} (he : e ∈ queue) :
      Function.update desk.grips i g e.1 = desk.grips e.1 := by
    have hmem : e.1 ∈ queue.map Prod.fst := List.mem_map_of_mem he
    refine Function.update_of_ne (fun heq => hnew ?_) _ _
    rwa [heq] at hmem
  have hlater : ∀ joy ∈ desk.sdl.virtuals, joy < desk.sdl.nextInstance := hlined.fresh.below
  have hfresh := hlined.fresh.attached api
  have hvirtuals : (desk.sdl.attachVirtual api).2 = { desk.sdl with
      virtuals := desk.sdl.virtuals ++ [desk.sdl.nextInstance]
      nextInstance := desk.sdl.nextInstance + 1 } := by cases api <;> rfl
  have hlength : queue.length = desk.sdl.virtuals.length := by
    simpa using congrArg List.length hlined.joys
  -- an empty row says nothing of the api before, so it is only asked for where somebody waits
  have hsame {other : SdlApi} (hother : some api = some other) (hqueue : queue ≠ []) :
      desk.api = some other := (hapi hqueue).symm.trans hother
  rw [hvirtuals] at hfresh ⊢
  constructor
  case fresh => exact hfresh
  case once =>
    rw [← List.concat_eq_append]
    exact hlined.once.concat fun hmem => Nat.lt_irrefl _ (hlater _ hmem)
  case single =>
    rw [List.map_append, List.map_singleton, ← List.concat_eq_append]
    exact hlined.single.concat hnew
  case inUse =>
    intro j
    rw [List.map_append, List.mem_append, ← hlined.inUse]
    by_cases hj : j = i
    · subst hj
      simp
    · simp [hj]
  case joys =>
    rw [List.map_append, List.map_append, ← hlined.joys]
    congr 1
    · exact List.map_congr_left fun e he => congrArg Grip.joy (hother he)
    · simp
  case ready => exact fun _ => rfl
  case lasting =>
    intro hthree j joy hj hjoy
    by_cases hnow : j = i
    · subst hnow
      cases hthree
      simp only [Function.update_self, Option.some.injEq] at hjoy ⊢
      rw [← hjoy]
      rfl
    · dsimp only at hj hjoy ⊢
      rw [Function.update_of_ne hnow] at hj hjoy ⊢
      exact hlined.lasting (hsame hthree (hlined.queue_ne_nil hj)) j joy hj hjoy
  case placed =>
    intro htwo
    rw [placed_append]
    constructor
    · cases queue with
      | nil => trivial
      | cons e rest =>
          exact (hlined.placed (hsame htwo (List.cons_ne_nil e rest))).congr fun f hf => hother hf
    · cases htwo
      -- the new joystick is the last of the list, and nobody has left from in front of it
      simp only [Placed, Function.update_self, hlength]
      exact ⟨Int.le_refl _, iff_of_true trivial rfl, trivial⟩

/-- A connected event leaves the row in order. -/
theorem connects (hlined : desk.Lined queue) {i : Fin maxSlots} {after : Desk}
    (hconnects : desk.Connects i after) :
    after.Lined (queue.next fun j => (after.grips j).active) := by
  -- once a slot is in use, the API stays what it is
  have hready {api : Option SdlApi} (hapi : desk.api.isSome = true → api = desk.api)
      (hqueue : queue ≠ []) : api = desk.api := hapi (hlined.ready hqueue)
  have hlast {api : Option SdlApi} (hapi : desk.api.isSome = true → api = desk.api)
      {j : Fin maxSlots} (hj : (desk.grips j).active = true) : api = desk.api :=
    hready hapi (hlined.queue_ne_nil hj)
  have hrow {api : Option SdlApi} (hapi : desk.api.isSome = true → api = desk.api)
      (htwo : api = some .sdl2) : Placed desk.grips desk.sdl.others queue := by
    cases queue with
    | nil => trivial
    | cons e rest => exact hlined.placed ((hready hapi (List.cons_ne_nil e rest)).symm.trans htwo)
  cases hconnects with
  | kept hapi =>
      rw [hlined.next_same]
      exact {
        hlined with
        ready := fun hqueue => (hready hapi hqueue) ▸ hlined.ready hqueue
        lasting := fun hthree j joy hj =>
          hlined.lasting ((hlast hapi hj).symm.trans hthree) j joy hj
        placed := hrow hapi }
  | lapsed hapi =>
      rw [hlined.next_same]
      exact {
        hlined with
        fresh := ⟨Nat.succ_pos _, fun joy hjoy => Nat.lt_succ_of_lt (hlined.fresh.below joy hjoy)⟩
        ready := fun _ => rfl
        lasting := fun hthree j joy hj =>
          hlined.lasting ((hlast hapi hj).symm.trans hthree) j joy hj
        placed := hrow hapi }
  | attached hapi hfree =>
      have hattached := hlined.attach (hready hapi) hfree
      have hqueue := hattached.inUse
      have hnew : i ∉ queue.map Prod.fst := by
        rw [← hlined.inUse, hfree]
        decide
      rw [Queue.next, Queue.leave_false, Queue.joining_one]
      · exact hattached
      · intro j
        rw [hqueue, List.map_append, List.mem_append]
        constructor
        · rintro ⟨hold | hnow, hj⟩
          · exact absurd hold hj
          · exact List.mem_singleton.mp hnow
        · rintro rfl
          exact ⟨Or.inr (List.mem_singleton_self _), hnew⟩
      · exact fun e he => hattached.mem_active (List.mem_append_left _ he)

section

variable {front back : Queue} {i : Fin maxSlots} {marked : Bool}

/-- A slot in use has its place in the row. -/
theorem split (hlined : desk.Lined queue) (hi : (desk.grips i).active = true) :
    ∃ front marked back, queue = front ++ (i, marked) :: back := by
  obtain ⟨⟨j, marked⟩, he, rfl⟩ := List.mem_map.mp ((hlined.inUse i).mp hi)
  obtain ⟨front, back, hqueue⟩ := List.append_of_mem he
  exact ⟨front, marked, back, hqueue⟩

theorem active_of_eq (hlined : desk.Lined queue) (hqueue : queue = front ++ (i, marked) :: back) :
    (desk.grips i).active = true := by
  have hmem : (i, marked) ∈ queue := by simp [hqueue]
  exact hlined.mem_active hmem

/-- Who else is in the row. -/
theorem others (hlined : desk.Lined queue) (hqueue : queue = front ++ (i, marked) :: back) :
    (∀ e ∈ front, e.1 ≠ i) ∧ ∀ e ∈ back, e.1 ≠ i := by
  have hsingle := hlined.single
  rw [hqueue, List.map_append, List.map_cons] at hsingle
  obtain ⟨-, hback, hfront⟩ := List.nodup_append.mp hsingle
  constructor
  · exact fun e he => hfront e.1 (List.mem_map_of_mem he) i List.mem_cons_self
  · intro e he hei
    have hmem : e.1 ∈ back.map Prod.fst := List.mem_map_of_mem he
    exact (List.nodup_cons.mp hback).1 (hei ▸ hmem)

/-- The id a slot remembers still refers to its joystick, unless SDL2 has moved the joystick. -/
theorem joystick?_eq_iff (hlined : desk.Lined queue)
    (hqueue : queue = front ++ (i, marked) :: back) {api : SdlApi} (hapi : desk.api = some api) :
    desk.sdl.joystick? api (desk.grips i).instanceId = (desk.grips i).joy ↔
      (api = .sdl2 → marked = false) := by
  have hi := hlined.active_of_eq hqueue
  obtain ⟨joy, hmem, hjoy⟩ := hlined.matched.held i hi
  cases api with
  | sdl3 =>
      refine iff_of_true ?_ fun htwo => by cases htwo
      rw [hlined.lasting hapi i joy hi hjoy, hjoy, Joysticks.joystick?]
      cases hfound : desk.sdl.virtuals.find? fun other : Nat => (other : Int) = joy with
      | none => exact absurd (List.find?_eq_none.mp hfound joy hmem) (by simp)
      | some other =>
          have hsame := List.find?_some hfound
          rw [Int.ofNat.inj (of_decide_eq_true hsame)]
  | sdl2 =>
      have hplaced := hlined.placed hapi
      rw [hqueue, placed_append] at hplaced
      obtain ⟨-, hle, hmarked, -⟩ := hplaced
      have hown : desk.sdl.virtuals[front.length]? = some joy := by
        have hjoys := congrArg (·[front.length]?) hlined.joys
        simpa [hqueue, hjoy] using hjoys
      -- SDL2's id is a place in the list, which is the slot's own while nobody in front has left
      obtain ⟨k, hk⟩ : ∃ k : Nat, (desk.grips i).instanceId = desk.sdl.others + k :=
        ⟨((desk.grips i).instanceId - desk.sdl.others).toNat, by omega⟩
      have hfound : desk.sdl.joystick? .sdl2 (desk.grips i).instanceId = desk.sdl.virtuals[k]? := by
        rw [hk, Joysticks.joystick?, if_pos (by omega)]
        congr 1
        omega
      rw [hfound, hjoy, ← hown, hmarked, hk]
      constructor
      · intro hsame _
        have hlt : front.length < desk.sdl.virtuals.length := (List.getElem?_eq_some_iff.mp hown).1
        rw [(List.getElem?_inj hlt hlined.once).mp hsame.symm]
      · intro hsame
        have hsame : k = front.length := by
          have hnow := hsame rfl
          omega
        rw [hsame]

/-- A slot whose id is right is removed from the row together with its joystick. -/
theorem detach_sdl (hlined : desk.Lined queue) (hqueue : queue = front ++ (i, marked) :: back)
    (hturn : desk.api = some .sdl2 → marked = false) {joy : Nat}
    (hjoy : (desk.grips i).joy = some joy) :
    (desk.detach i).sdl = { desk.sdl with virtuals := desk.sdl.virtuals.erase joy } := by
  have hready : desk.api.isSome = true := hlined.ready (by simp [hqueue])
  obtain ⟨api, hapi⟩ := Option.isSome_iff_exists.mp hready
  have hfound := (hlined.joystick?_eq_iff hqueue hapi).mpr fun htwo => hturn (htwo ▸ hapi)
  rw [hjoy] at hfound
  simp only [Desk.detach, hapi, Joysticks.detachVirtual, hfound]

theorem detach (hlined : desk.Lined queue) (hqueue : queue = front ++ (i, marked) :: back)
    (hturn : desk.api = some .sdl2 → marked = false) :
    (desk.detach i).Lined (front ++ back.map fun e => (e.1, true)) := by
  obtain ⟨hfront, hback⟩ := hlined.others hqueue
  have hjoys := hlined.joys
  rw [hqueue, List.map_append, List.map_cons] at hjoys
  obtain ⟨before, rest, hvirtuals, hbefore, hrest⟩ := List.map_eq_append_iff.mp hjoys.symm
  obtain ⟨joy, later, rfl, hjoy, hlater⟩ := List.map_eq_cons_iff.mp hrest
  have honce := hlined.once
  rw [hvirtuals] at honce
  -- the joystick of the slot stands between those of the slots in front and behind
  have herase : desk.sdl.virtuals.erase joy = before ++ later := by
    have hnot : joy ∉ before := fun hmem =>
      (List.nodup_append.mp honce).2.2 joy hmem joy List.mem_cons_self rfl
    rw [hvirtuals, List.erase_append_right _ hnot, List.erase_cons_head]
  have hsdl := hlined.detach_sdl hqueue hturn hjoy.symm
  rw [herase] at hsdl
  have hsub : (before ++ later).Sublist desk.sdl.virtuals := by
    rw [hvirtuals]
    exact List.Sublist.append_left (List.sublist_cons_self joy later) before
  have hmoved {j : Fin maxSlots} (hj : j ≠ i) : (desk.detach i).grips j = desk.grips j :=
    detach_grips_of_ne hj desk
  have hgone : ((desk.detach i).grips i).active = false := by simp
  have hslots : (front ++ back.map fun e => (e.1, true)).map Prod.fst =
      front.map Prod.fst ++ back.map Prod.fst := by simp
  constructor
  case fresh =>
    rw [hsdl]
    exact ⟨hlined.fresh.positive, fun joy hjoy => hlined.fresh.below joy (hsub.subset hjoy)⟩
  case once =>
    rw [hsdl]
    exact hsub.nodup hlined.once
  case single =>
    rw [hslots]
    have hsingle := hlined.single
    rw [hqueue, List.map_append, List.map_cons] at hsingle
    exact (List.Sublist.append_left (List.sublist_cons_self i _) _).nodup hsingle
  case inUse =>
    intro j
    rw [hslots, List.mem_append]
    by_cases hj : j = i
    · subst hj
      refine iff_of_false (by rw [hgone]; decide) ?_
      rintro (hmem | hmem)
      · obtain ⟨e, he, hsame⟩ := List.mem_map.mp hmem
        exact hfront e he hsame
      · obtain ⟨e, he, hsame⟩ := List.mem_map.mp hmem
        exact hback e he hsame
    · rw [hmoved hj, hlined.inUse, hqueue, List.map_append, List.map_cons, List.mem_append,
        List.mem_cons, or_iff_right hj]
  case joys =>
    rw [hsdl, List.map_append, List.map_append, hbefore, hlater, List.map_map]
    congr 1
    · exact List.map_congr_left fun e he => by rw [hmoved (hfront e he)]
    · exact List.map_congr_left fun e he => by simp [hmoved (hback e he)]
  case ready => exact fun _ => hlined.ready (by simp [hqueue])
  case lasting =>
    intro hthree j other hj hother
    have hne := ne_of_detach hj
    rw [hmoved hne] at hj hother ⊢
    exact hlined.lasting hthree j other hj hother
  case placed =>
    intro htwo
    have hplaced := hlined.placed htwo
    rw [hqueue, placed_append] at hplaced
    obtain ⟨hahead, -, -, hbehind⟩ := hplaced
    rw [hsdl, placed_append]
    -- the slots behind move up by one place and keep their old number, so they are marked
    refine ⟨hahead.congr fun e he => hmoved (hfront e he), hbehind.move_up.congr fun e he => ?_⟩
    obtain ⟨f, hf, rfl⟩ := List.mem_map.mp he
    exact hmoved (hback f hf)

theorem next_detach (hlined : desk.Lined queue) (hqueue : queue = front ++ (i, marked) :: back) :
    queue.next (fun j => ((desk.detach i).grips j).active) =
      front ++ back.map fun e => (e.1, true) := by
  obtain ⟨hfront, hback⟩ := hlined.others hqueue
  have hstill {e : Fin maxSlots × Bool} (he : e ∈ queue) (hne : e.1 ≠ i) :
      ((desk.detach i).grips e.1).active = true := by
    rw [detach_grips_of_ne hne]
    exact hlined.mem_active he
  rw [Queue.next, Queue.joining_none, List.append_nil, hqueue, Queue.leave_one]
  · exact fun e he => hstill (by simp [hqueue, he]) (hfront e he)
  · simp
  · exact fun e he => hstill (by simp [hqueue, he]) (hback e he)
  · intro j hj
    rw [detach_grips_of_ne (ne_of_detach hj)] at hj
    exact (hlined.inUse j).mp hj

/-- SDL2 detaches another joystick for a marked slot, or none: its own stays attached. -/
theorem not_matched (hlined : desk.Lined queue) (hqueue : queue = front ++ (i, true) :: back)
    (hapi : desk.api = some .sdl2) : ¬(desk.detach i).Matched := by
  intro hmatched
  have hi := hlined.active_of_eq hqueue
  obtain ⟨joy, hmem, hjoy⟩ := hlined.matched.held i hi
  have hwrong : ¬desk.sdl.joystick? .sdl2 (desk.grips i).instanceId = some joy := by
    rw [← hjoy, hlined.joystick?_eq_iff hqueue hapi]
    exact fun hmarked => absurd (hmarked rfl) (by decide)
  have hleft : joy ∈ (desk.detach i).sdl.virtuals := by
    simp only [Desk.detach, hapi, Joysticks.detachVirtual]
    split
    next other hother =>
      have hne : joy ≠ other := by
        rintro rfl
        exact hwrong hother
      exact (List.mem_erase_of_ne hne).mpr hmem
    next => exact hmem
  -- its joystick is left, and the slot that should own it would be the one just emptied
  obtain ⟨j, hj, hown⟩ := hmatched.owned joy hleft
  have hne := ne_of_detach hj
  rw [detach_grips_of_ne hne] at hj hown
  exact hne (hlined.matched.apart j i hj hi (hown.trans hjoy.symm))

end

end Desk.Lined

/-! ## Runs -/

namespace Injector

/-- The virtual joysticks are those of the slots in use, one each. -/
def Matched (injector : Injector) : Prop := injector.desk.Matched

/-- A slot that is given up takes its own joystick with it and no other. -/
def DetachesOwn (injector : Injector) (event : Event) : Prop :=
  ∀ i joy, (injector.slots i).active = true → (injector.slots i).joy = some joy →
    ((injector.step event).slots i).active = false →
    (injector.step event).sdl.virtuals = injector.sdl.virtuals.erase joy

/-! ## SDL3 -/

section

variable (host : SdlHost) (injector : Injector)

/-- Attaching a joystick keeps the API. -/
theorem attachSlot_api (i : Fin maxSlots) : (injector.attachSlot host i).api = injector.api := by
  have hattach : (injector.sdlAttachVirtual host).2.api = injector.api := by
    unfold sdlAttachVirtual
    split
    · rfl
    · split
      · rfl
      · split <;> rfl
  unfold attachSlot
  dsimp only
  split
  · rfl
  · split
    · split
      · exact (congrArg Desk.api (desk_sdlDetachVirtual ..)).trans hattach
      · exact (congrArg Desk.api (desk_applySlotState ..)).trans hattach
    · exact hattach

variable {host} {injector}

/-- SDL2 is not used where it is not found. -/
theorem ensureSdlReady_sdl3 (hhost : host.sdl2 = false) (hapi : injector.api ≠ some .sdl2) :
    (injector.ensureSdlReady host).2.api ≠ some .sdl2 := by
  unfold ensureSdlReady
  split
  · exact hapi
  · rw [hhost, if_neg Bool.false_ne_true]
    split
    · exact fun htwo => SdlApi.noConfusion (Option.some.inj htwo)
    · exact hapi

theorem onConnected_sdl3 (hhost : host.sdl2 = false) (hapi : injector.api ≠ some .sdl2)
    (slot : Int) : (injector.onConnected host slot).api ≠ some .sdl2 := by
  have hensured := ensureSdlReady_sdl3 hhost hapi
  unfold onConnected
  split
  · exact hapi
  · dsimp only
    split
    · rwa [attachSlot_api]
    · exact hensured

theorem onInput_sdl3 (hhost : host.sdl2 = false) (hapi : injector.api ≠ some .sdl2)
    (line : List Char) : (injector.onInput host line).api ≠ some .sdl2 := by
  have hensured := ensureSdlReady_sdl3 hhost hapi
  have happlied (i : Fin maxSlots) (numbers : InputNumbers) (before : Injector) :
      (before.applyInput i numbers).api = before.api := congrArg Desk.api (desk_applyInput ..)
  unfold onInput
  split
  · dsimp only
    split
    · rw [happlied]
      split
      · exact hensured
      · exact onConnected_sdl3 hhost hensured _
    · exact hensured
  · exact hapi

theorem step_sdl3 {event : Event} (hhost : event.host.sdl2 = false)
    (hapi : injector.api ≠ some .sdl2) : (injector.step event).api ≠ some .sdl2 := by
  rcases injector.step_cases event with
    ⟨slot, i, hslot, -, hstep⟩ | ⟨-, hstep | ⟨slot, hstep⟩ | hstep⟩
  · have hdesk := congrArg Desk.api (@onDisconnected_desk injector slot i hslot)
    rw [apply_ite Desk.api] at hdesk
    rw [hstep]
    exact fun htwo => hapi ((hdesk.trans (ite_self _)).symm.trans htwo)
  · rwa [hstep]
  · rw [hstep]
    exact onConnected_sdl3 hhost hapi slot
  · rw [hstep]
    exact onInput_sdl3 hhost hapi event.line

end

end Injector

/-- The injector, watched by one who knows in which order the slots were connected. -/
structure Watched where
  injector : Injector
  queue : Queue := []

namespace Watched

def step (watched : Watched) (event : Injector.Event) : Watched :=
  let injector := watched.injector.step event
  ⟨injector, watched.queue.next fun i => (injector.slots i).active⟩

/-- SDL2 is not told of a slot's disconnect when another has left from in front of the slot. -/
def InTurn (watched : Watched) (event : Injector.Event) : Prop :=
  watched.injector.api = some .sdl2 →
    ∀ i, (i, true) ∈ watched.queue → ¬SaysDisconnected event.line i

/-- The row is in order. -/
def Lined (watched : Watched) : Prop := watched.injector.desk.Lined watched.queue

variable {watched : Watched} {event : Injector.Event}

theorem run_injector (watched : Watched) (events : List Injector.Event) :
    (run step watched events).injector = run Injector.step watched.injector events := by
  have hrun : (run step watched events).injector =
      run Injector.step watched.injector (events.map id) :=
    Machine.run_map Watched.injector id (fun _ => True) (fun _ _ _ => trivial) (fun _ _ _ => rfl)
      trivial events
  rwa [List.map_id] at hrun

/-- A disconnected event that comes in turn is for a slot that is not marked. -/
theorem InTurn.not_marked (hturn : watched.InTurn event) {i : Fin maxSlots} {marked : Bool}
    {front back : Queue} (hqueue : watched.queue = front ++ (i, marked) :: back)
    (hline : SaysDisconnected event.line i) :
    watched.injector.desk.api = some .sdl2 → marked = false := by
  intro htwo
  cases marked with
  | false => rfl
  | true => exact absurd hline (hturn htwo i (by simp [hqueue]))

theorem Lined.step (hlined : watched.Lined) (hturn : watched.InTurn event) :
    (watched.step event).Lined := by
  have hactive : (fun i => ((watched.injector.step event).slots i).active) =
      fun i => ((watched.injector.step event).desk.grips i).active := rfl
  rw [Lined, Watched.step]
  dsimp only
  rw [hactive]
  rcases Injector.step_desk hlined.fresh event with ⟨i, hline, hi, hdesk⟩ | ⟨-, i, hconnects⟩
  · obtain ⟨front, marked, back, hqueue⟩ := hlined.split hi
    rw [hdesk, hlined.next_detach hqueue]
    exact hlined.detach hqueue (hturn.not_marked hqueue hline)
  · exact hlined.connects hconnects

theorem Lined.inTurn (hlined : watched.Lined)
    (hmatched : (watched.injector.step event).Matched) : watched.InTurn event := by
  intro htwo i hmarked hline
  obtain ⟨front, back, hqueue⟩ := List.append_of_mem hmarked
  have hi : (watched.injector.slots i).active = true := hlined.mem_active hmarked
  rcases Injector.step_desk hlined.fresh event with ⟨j, hj, -, hdesk⟩ | ⟨hnone, -⟩
  · have hsame : j = i := Option.some.inj (hj.2.2.symm.trans hline.2.2)
    rw [Injector.Matched, hdesk, hsame] at hmatched
    exact hlined.not_matched hqueue htwo hmatched
  · exact Bool.false_ne_true ((hnone i hline).symm.trans hi)

theorem Lined.detachesOwn (hlined : watched.Lined) (hturn : watched.InTurn event) :
    watched.injector.DetachesOwn event := by
  intro i joy hi hjoy hafter
  have hsdl (after : Injector) : after.sdl = after.desk.sdl := rfl
  rcases Injector.step_desk hlined.fresh event with ⟨j, hline, -, hdesk⟩ | ⟨-, j, hconnects⟩
  · obtain rfl : i = j := by
      by_contra hne
      have hstill : ((watched.injector.step event).desk.grips i).active = true := by
        rw [hdesk, Desk.detach_grips_of_ne hne]
        exact hi
      exact Bool.false_ne_true (hafter.symm.trans hstill)
    obtain ⟨front, marked, back, hqueue⟩ := hlined.split hi
    rw [hsdl, hdesk, hlined.detach_sdl hqueue (hturn.not_marked hqueue hline) hjoy]
    rfl
  · -- connecting gives up no slot
    exact absurd (hconnects.active hi) (by rw [Bool.not_eq_true]; exact hafter)

theorem start_lined (settings : InjectorSettings) (others : Nat) :
    Lined ⟨Injector.start settings others, []⟩ where
  fresh := ⟨Nat.succ_pos _, fun joy hjoy => absurd hjoy List.not_mem_nil⟩
  once := List.nodup_nil
  single := List.nodup_nil
  inUse := fun i => iff_of_false Bool.false_ne_true List.not_mem_nil
  joys := rfl
  ready := fun hqueue => absurd rfl hqueue
  lasting := fun hthree => absurd hthree (by simp [Injector.start, Injector.desk])
  placed := fun _ => trivial

/-- Slots and joysticks match along a run just if the disconnects come in turn. -/
theorem matched_iff (settings : InjectorSettings) (others : Nat) (events : List Injector.Event) :
    (∀ before, before <+: events →
        (run Injector.step (Injector.start settings others) before).Matched) ↔
      Always step InTurn ⟨Injector.start settings others, []⟩ events := by
  have halong : (∀ before, before <+: events →
      (run step ⟨Injector.start settings others, []⟩ before).injector.Matched) ↔
      Always step InTurn ⟨Injector.start settings others, []⟩ events := by
    apply Machine.forall_prefix_iff_always (fun watched : Watched => watched.injector.Matched) Lined
    case hgood => exact fun _ hlined => hlined.matched
    case hstep => exact fun _ _ _ => Lined.step
    case hbad => exact fun _ _ _ => Lined.inTurn
    case hstart => exact start_lined settings others
  simpa only [run_injector] using halong

/-- Where SDL2 is not found, they always do. -/
theorem inTurn_of_sdl3 (settings : InjectorSettings) (others : Nat) {events : List Injector.Event}
    (hhost : ∀ event ∈ events, event.host.sdl2 = false) :
    Always step InTurn ⟨Injector.start settings others, []⟩ events := by
  have hrun (before : List Injector.Event) (hbefore : ∀ event ∈ before, event.host.sdl2 = false) :
      (run Injector.step (Injector.start settings others) before).api ≠ some .sdl2 := by
    induction before using List.reverseRecOn with
    | nil => simp [Injector.start]
    | append_singleton before last ih =>
        rw [Machine.run_concat]
        refine Injector.step_sdl3 (hbefore last (by simp)) (ih fun event hevent => ?_)
        exact hbefore event (List.mem_append_left _ hevent)
  intro before event after hsplit htwo
  rw [run_injector] at htwo
  refine absurd htwo (hrun before fun event hevent => hhost event ?_)
  rw [hsplit]
  exact List.mem_append_left _ hevent

end Watched

/-- The virtual joysticks are always those of the slots in use, one each, and every disconnect
detaches the slot's own, exactly if under SDL2 no slot is disconnected after another has left that
was in use when it was connected; under SDL3 in every run. -/
theorem detach_matches_iff (settings : InjectorSettings) (others : Nat)
    (events : List Injector.Event) :
    ((∀ before, before <+: events →
        (run Injector.step (Injector.start settings others) before).Matched) ∧
      Always Injector.step Injector.DetachesOwn (Injector.start settings others) events) ↔
      Always Watched.step Watched.InTurn ⟨Injector.start settings others, []⟩ events := by
  rw [Watched.matched_iff, and_iff_left_of_imp]
  intro halways before event after hsplit
  have hbefore := halways
  rw [hsplit, Machine.always_append] at hbefore
  have hlined := Machine.run_invariant_of_always Watched.Lined (fun _ _ => Watched.Lined.step)
    (Watched.start_lined settings others) hbefore.1
  have hown := hlined.detachesOwn (halways before event after hsplit)
  rwa [Watched.run_injector] at hown

/-- Two controllers connect; the first one leaves and after it the second. -/
def twoControllers : List Injector.Event :=
  [connectedEvent 0, connectedEvent 1, disconnectedEvent 0, disconnectedEvent 1].map fun line =>
    ⟨.working true, line⟩

/-- For the second controller position 1 is detached of a list with one joystick, which stays. -/
theorem second_joystick_leaks :
    ¬(run Injector.step (Injector.start {} 0) twoControllers).Matched := by
  intro hmatched
  have hleft : 2 ∈ (run Injector.step (Injector.start {} 0) twoControllers).sdl.virtuals := by
    decide +kernel
  have hidle : ∀ i, ((run Injector.step (Injector.start {} 0) twoControllers).slots i).active =
      false := by decide +kernel
  obtain ⟨i, hi, -⟩ := hmatched.owned 2 hleft
  exact Bool.false_ne_true ((hidle i).symm.trans hi)

end XoneDarwin
