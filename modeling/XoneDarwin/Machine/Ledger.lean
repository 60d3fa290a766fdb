import Mathlib.Logic.Function.Basic

/-!
# References taken and given back

Pointers, each to an object of its own, and calls that take references and may fail. A
pointer owns its object if the references not given back are just the one it holds.
-/

namespace Machine

/-- A reference to an object is taken or given back. -/
inductive Entry (Object : Type*)
  | take (object : Object)
  | give (object : Object)
  deriving DecidableEq

/-- The pointers that are set, and the references taken and given back, newest first. -/
structure Ledger (Object : Type*) where
  held : Object → Bool := fun _ => false
  entries : List (Entry Object) := []

namespace Ledger

variable {Object : Type*}

def enter (entry : Entry Object) (ledger : Ledger Object) : Ledger Object :=
  { ledger with entries := entry :: ledger.entries }

@[simp] theorem held_enter (ledger : Ledger Object) (entry : Entry Object) :
    (ledger.enter entry).held = ledger.held :=
  rfl

variable [DecidableEq Object]

/-- A pointer is set to an object with a reference of its own. -/
def acquire (object : Object) (ledger : Ledger Object) : Ledger Object :=
  { held := Function.update ledger.held object true, entries := .take object :: ledger.entries }

/-- A pointer that is set gives its reference back and is cleared. -/
def releaseNull (object : Object) (ledger : Ledger Object) : Ledger Object :=
  if ledger.held object then
    { held := Function.update ledger.held object false
      entries := .give object :: ledger.entries }
  else ledger

/-- Pointers are cleared in a row. -/
def releaseAll (objects : List Object) (ledger : Ledger Object) : Ledger Object :=
  objects.foldl (fun l object => l.releaseNull object) ledger

/-- How often a reference was taken. -/
def taken (object : Object) (ledger : Ledger Object) : Nat :=
  ledger.entries.count (.take object)

/-- How often a reference was given back. -/
def given (object : Object) (ledger : Ledger Object) : Nat :=
  ledger.entries.count (.give object)

/-- The references that were not given back are those of the pointer. -/
def Owns (ledger : Ledger Object) (object : Object) : Prop :=
  ledger.taken object = ledger.given object + (ledger.held object).toNat

section

variable (ledger : Ledger Object) (object other : Object)

@[simp] theorem taken_take :
    (ledger.enter (.take other)).taken object =
      ledger.taken object + if other = object then 1 else 0 := by
  simp [taken, enter, List.count_cons]

@[simp] theorem taken_give : (ledger.enter (.give other)).taken object = ledger.taken object := by
  simp [taken, enter]

@[simp] theorem given_take : (ledger.enter (.take other)).given object = ledger.given object := by
  simp [given, enter]

@[simp] theorem given_give :
    (ledger.enter (.give other)).given object =
      ledger.given object + if other = object then 1 else 0 := by
  simp [given, enter, List.count_cons]

@[simp] theorem taken_acquire :
    (ledger.acquire other).taken object =
      ledger.taken object + if other = object then 1 else 0 :=
  ledger.taken_take object other

@[simp] theorem given_acquire : (ledger.acquire other).given object = ledger.given object :=
  ledger.given_take object other

theorem held_acquire :
    (ledger.acquire other).held = Function.update ledger.held other true :=
  rfl

@[simp] theorem taken_releaseNull :
    (ledger.releaseNull other).taken object = ledger.taken object := by
  unfold releaseNull
  split
  · exact ledger.taken_give object other
  · rfl

theorem given_releaseNull :
    (ledger.releaseNull other).given object =
      ledger.given object + if other = object then (ledger.held object).toNat else 0 := by
  unfold releaseNull
  by_cases hheld : ledger.held other = true
  · rw [if_pos hheld]
    by_cases hsame : other = object
    · subst hsame
      rw [if_pos rfl, hheld]
      exact (ledger.given_give other other).trans (by rw [if_pos rfl]; rfl)
    · rw [if_neg hsame]
      exact (ledger.given_give object other).trans (by rw [if_neg hsame])
  · rw [if_neg hheld]
    by_cases hsame : other = object
    · subst hsame
      rw [if_pos rfl, Bool.eq_false_iff.mpr hheld]
      rfl
    · rw [if_neg hsame]
      rfl

@[simp] theorem given_releaseNull_ne (hne : other ≠ object) :
    (ledger.releaseNull other).given object = ledger.given object := by
  rw [given_releaseNull, if_neg hne, Nat.add_zero]

@[simp] theorem held_releaseNull :
    (ledger.releaseNull other).held object =
      if other = object then false else ledger.held object := by
  unfold releaseNull
  by_cases hsame : other = object
  · subst hsame
    rw [if_pos rfl]
    split
    · exact Function.update_self ..
    · exact Bool.eq_false_iff.mpr ‹_›
  · rw [if_neg hsame]
    split
    · exact Function.update_of_ne (Ne.symm hsame) ..
    · rfl

variable {ledger} {object}

/-- Any other entry concerns another object. -/
theorem Owns.enter (howns : ledger.Owns object) {entry : Entry Object}
    (htake : entry ≠ .take object) (hgive : entry ≠ .give object) :
    (ledger.enter entry).Owns object := by
  unfold Owns taken given Ledger.enter at *
  rw [List.count_cons_of_ne htake, List.count_cons_of_ne hgive]
  exact howns

/-- A cleared pointer may be set. -/
theorem Owns.acquire (howns : ledger.Owns object) (hclear : ledger.held other = false) :
    (ledger.acquire other).Owns object := by
  unfold Owns at *
  rw [taken_acquire, given_acquire, held_acquire]
  by_cases hsame : other = object
  · subst hsame
    rw [if_pos rfl, Function.update_self, howns, hclear]
    rfl
  · rw [if_neg hsame, Function.update_of_ne (Ne.symm hsame), howns, Nat.add_zero]

/-- Clearing a pointer is always right. -/
theorem Owns.releaseNull (howns : ledger.Owns object) : (ledger.releaseNull other).Owns object := by
  unfold Owns at *
  rw [taken_releaseNull, given_releaseNull, held_releaseNull, howns]
  by_cases hsame : other = object
  · rw [if_pos hsame, if_pos hsame]
    rfl
  · rw [if_neg hsame, if_neg hsame, Nat.add_zero]

theorem held_releaseAll (objects : List Object) (ledger : Ledger Object) (object : Object) :
    (ledger.releaseAll objects).held object =
      if object ∈ objects then false else ledger.held object := by
  induction objects generalizing ledger with
  | nil => simp [releaseAll]
  | cons first rest ih =>
      rw [releaseAll, List.foldl_cons, ← releaseAll, ih, held_releaseNull]
      by_cases hrest : object ∈ rest
      · rw [if_pos hrest, if_pos (List.mem_cons_of_mem _ hrest)]
      · rw [if_neg hrest]
        refine if_congr ?_ rfl rfl
        rw [List.mem_cons, or_iff_left hrest, eq_comm]

/-- What clearing a pointer keeps, clearing several keeps. -/
theorem releaseAll_rule {P : Ledger Object → Prop} {objects : List Object}
    (hrelease : ∀ object ∈ objects, ∀ ledger, P ledger → P (ledger.releaseNull object))
    {ledger : Ledger Object} (hledger : P ledger) : P (ledger.releaseAll objects) := by
  induction objects generalizing ledger with
  | nil => exact hledger
  | cons first rest ih =>
      exact ih (fun object hmem => hrelease object (List.mem_cons_of_mem _ hmem))
        (hrelease first List.mem_cons_self ledger hledger)

/-- Once the pointer is cleared, everything is given back. -/
theorem Owns.settled (howns : ledger.Owns object) (hclear : ledger.held object = false) :
    ledger.given object = ledger.taken object := by
  unfold Owns at howns
  rw [howns, hclear]
  rfl

end

end Ledger

/-! ## Calls that may fail -/

/-- A call with a return code, on a state that it also changes when it fails. -/
abbrev Attempt (Code State : Type*) := State → Code × State

namespace Attempt

variable {Code State : Type*} [DecidableEq Code]

/-- The second call follows if the first one returns `success`. -/
def andThen (success : Code) (first second : Attempt Code State) : Attempt Code State := fun s =>
  if (first s).1 ≠ success then first s else second (first s).2

/-- From `P` a call gets to `Q` if it succeeds and to `E` if it fails. -/
def Spec (success : Code) (P : State → Prop) (call : Attempt Code State) (Q E : State → Prop) :
    Prop :=
  ∀ s, P s → if (call s).1 = success then Q (call s).2 else E (call s).2

theorem Spec.andThen {success : Code} {P Q R E : State → Prop} {first second : Attempt Code State}
    (hfirst : first.Spec success P Q E) (hsecond : second.Spec success Q R E) :
    (first.andThen success second).Spec success P R E := by
  intro s hs
  have hs' := hfirst s hs
  unfold Attempt.andThen
  by_cases hcode : (first s).1 = success
  · rw [if_pos hcode] at hs'
    rw [if_neg (not_not.mpr hcode)]
    exact hsecond _ hs'
  · rw [if_neg hcode] at hs'
    rw [if_pos hcode, if_neg hcode]
    exact hs'

/-- From `P` a call returns with a code and a state that go with `Q`. -/
def Meets (P : State → Prop) (call : Attempt Code State) (Q : Code → State → Prop) : Prop :=
  ∀ s, P s → Q (call s).1 (call s).2

/-- A failure of the first call is one of the whole. -/
theorem Meets.andThen {success : Code} {P : State → Prop} {Q R : Code → State → Prop}
    {first second : Attempt Code State} (hfirst : Meets P first Q)
    (hsecond : Meets (Q success) second R)
    (hfail : ∀ code s, code ≠ success → Q code s → R code s) :
    Meets P (first.andThen success second) R := by
  intro s hs
  have hs' := hfirst s hs
  unfold Attempt.andThen
  by_cases hcode : (first s).1 = success
  · rw [if_neg (not_not.mpr hcode)]
    rw [hcode] at hs'
    exact hsecond _ hs'
  · rw [if_pos hcode]
    exact hfail _ _ hcode hs'

end Attempt

end Machine
