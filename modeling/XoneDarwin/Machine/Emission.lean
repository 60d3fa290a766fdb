import Mathlib.Data.List.Basic

/-!
# Append-only logs, newest entry first

`Emits P before after` says that `after` extends `before` and that every fresh
entry satisfies `P`. What a log-reading function sees in the fresh part then
follows from `P` alone.
-/

namespace Machine

variable {ε α : Type*}

/-- `after` is `before` with fresh entries in front, all satisfying `P`. -/
def Emits (P : ε → Prop) (before after : List ε) : Prop :=
  ∃ fresh, after = fresh ++ before ∧ ∀ entry ∈ fresh, P entry

namespace Emits

variable {P Q : ε → Prop} {before middle after : List ε}

theorem refl (log : List ε) : Emits P log log :=
  ⟨[], rfl, by simp⟩

theorem trans (hfirst : Emits P before middle) (hsecond : Emits P middle after) :
    Emits P before after := by
  obtain ⟨older, rfl, holder⟩ := hfirst
  obtain ⟨newer, rfl, hnewer⟩ := hsecond
  refine ⟨newer ++ older, by simp, ?_⟩
  intro entry hentry
  exact (List.mem_append.mp hentry).elim (hnewer entry) (holder entry)

theorem mono (hemits : Emits P before after) (himp : ∀ entry, P entry → Q entry) :
    Emits Q before after := by
  obtain ⟨fresh, hafter, hfresh⟩ := hemits
  exact ⟨fresh, hafter, fun entry hentry => himp entry (hfresh entry hentry)⟩

/-- One more entry in front. -/
theorem cons {entry : ε} (hemits : Emits P before after) (hentry : P entry) :
    Emits P before (entry :: after) := by
  obtain ⟨fresh, rfl, hfresh⟩ := hemits
  refine ⟨entry :: fresh, rfl, ?_⟩
  intro other hother
  rcases List.mem_cons.mp hother with rfl | hother
  · exact hentry
  · exact hfresh other hother

theorem one {entry : ε} (hentry : P entry) : Emits P before (entry :: before) :=
  (refl before).cons hentry

/-- A property of all entries survives an extension by entries that have it. -/
theorem forall_mem (hemits : Emits P before after) (hbefore : ∀ entry ∈ before, P entry) :
    ∀ entry ∈ after, P entry := by
  obtain ⟨fresh, rfl, hfresh⟩ := hemits
  intro entry hentry
  exact (List.mem_append.mp hentry).elim (hfresh entry) (hbefore entry)

theorem suffix (hemits : Emits P before after) : before <:+ after := by
  obtain ⟨fresh, rfl, -⟩ := hemits
  exact List.suffix_append fresh before

/-- The latest entry a reader recognises is unchanged if it recognises no fresh one. -/
theorem findSome?_eq {read : ε → Option α}
    (hemits : Emits (fun entry => read entry = none) before after) :
    after.findSome? read = before.findSome? read := by
  obtain ⟨fresh, rfl, hfresh⟩ := hemits
  rw [List.findSome?_append, List.findSome?_eq_none_iff.mpr hfresh]
  rfl

/-- What a reader extracts is unchanged if it recognises no fresh entry. -/
theorem filterMap_eq {read : ε → Option α}
    (hemits : Emits (fun entry => read entry = none) before after) :
    after.filterMap read = before.filterMap read := by
  obtain ⟨fresh, rfl, hfresh⟩ := hemits
  rw [List.filterMap_append, List.filterMap_eq_nil_iff.mpr hfresh]
  rfl

end Emits

/-! ## Announcements that follow a setting -/

/-- Every announcement in the log names the setting made last before it. -/
def Follows (announce tune : ε → Option α) : List ε → Prop
  | [] => True
  | entry :: older =>
      (∀ a, announce entry = some a → older.findSome? tune = some a) ∧
        Follows announce tune older

namespace Follows

variable {announce tune : ε → Option α} {before after : List ε}

/-- Entries that announce only the present setting, and leave it alone. -/
theorem extend {setting : α}
    (hemits : Emits (fun entry => tune entry = none ∧
      ∀ a, announce entry = some a → a = setting) before after)
    (hsetting : before.findSome? tune = some setting) (hfollows : Follows announce tune before) :
    Follows announce tune after ∧ after.findSome? tune = some setting := by
  obtain ⟨fresh, rfl, hfresh⟩ := hemits
  induction fresh with
  | nil => exact ⟨hfollows, hsetting⟩
  | cons entry fresh ih =>
      obtain ⟨holder, hlatest⟩ := ih fun entry hentry =>
        hfresh entry (List.mem_cons_of_mem _ hentry)
      obtain ⟨htune, hannounce⟩ := hfresh entry List.mem_cons_self
      refine ⟨⟨fun a ha => ?_, holder⟩, ?_⟩
      · rw [hannounce a ha]
        exact hlatest
      · rw [List.cons_append, List.findSome?_cons, htune]
        exact hlatest

/-- Silent entries, whatever they set. -/
theorem silent (hemits : Emits (fun entry => announce entry = none) before after)
    (hfollows : Follows announce tune before) : Follows announce tune after := by
  obtain ⟨fresh, rfl, hfresh⟩ := hemits
  induction fresh with
  | nil => exact hfollows
  | cons entry fresh ih =>
      refine ⟨fun a ha => ?_, ih fun entry hentry => hfresh entry (List.mem_cons_of_mem _ hentry)⟩
      rw [hfresh entry List.mem_cons_self] at ha
      cases ha

end Follows

/-! ## Requests that need a licence -/

/-- Every request in the log is licensed by an older entry for the same thing. -/
def Licensed (request licence : ε → Option α) : List ε → Prop
  | [] => True
  | entry :: older =>
      (∀ a, request entry = some a → ∃ earlier ∈ older, licence earlier = some a) ∧
        Licensed request licence older

namespace Licensed

variable {request licence : ε → Option α} {before after : List ε}

/-- Requests licensed by what was there before. -/
theorem extend
    (hemits : Emits (fun entry => ∀ a, request entry = some a →
      ∃ earlier ∈ before, licence earlier = some a) before after)
    (hlicensed : Licensed request licence before) : Licensed request licence after := by
  obtain ⟨fresh, rfl, hfresh⟩ := hemits
  induction fresh with
  | nil => exact hlicensed
  | cons entry fresh ih =>
      refine ⟨fun a ha => ?_, ih fun entry hentry => hfresh entry (List.mem_cons_of_mem _ hentry)⟩
      obtain ⟨earlier, hearlier, hsame⟩ := hfresh entry List.mem_cons_self a ha
      exact ⟨earlier, List.mem_append_right fresh hearlier, hsame⟩

/-- Where there is no licence there is no request. -/
theorem unlicensed {log : List ε} (hlicensed : Licensed request licence log)
    (hnone : ∀ entry ∈ log, licence entry = none) : ∀ entry ∈ log, request entry = none := by
  induction log with
  | nil => simp
  | cons entry older ih =>
      obtain ⟨hentry, holder⟩ := hlicensed
      have hnone' := fun other hother => hnone other (List.mem_cons_of_mem _ hother)
      intro other hother
      rcases List.mem_cons.mp hother with rfl | hother
      · cases ha : request other with
        | none => rfl
        | some a =>
            obtain ⟨earlier, hearlier, hsame⟩ := hentry a ha
            rw [hnone' earlier hearlier] at hsame
            cases hsame
      · exact ih holder hnone' other hother

end Licensed

end Machine
