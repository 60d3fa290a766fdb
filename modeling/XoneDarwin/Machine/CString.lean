import Mathlib.Data.List.Basic
import Mathlib.Tactic.Common

/-!
# C strings

A C string is the list of its characters up to the terminator, and a pointer
into it is the rest of the list. Decimal printing and `strtol` are inverse to
each other, and `strstr` skips text that cannot start a match.
-/

namespace CString

/-! ## Searching -/

/-- `strstr`: the string from the first occurrence of `needle` on. -/
def strstr (needle : List Char) : List Char → Option (List Char)
  | [] => if needle.isEmpty then some [] else none
  | c :: rest =>
      if needle.isPrefixOf (c :: rest) then some (c :: rest) else strstr needle rest

theorem strstr_skip_one {first c : Char} {needle rest : List Char} (hne : c ≠ first) :
    strstr (first :: needle) (c :: rest) = strstr (first :: needle) rest := by
  rw [strstr, if_neg]
  simp [hne.symm]

/-- Text without the first character of the needle is skipped. -/
theorem strstr_skip {first : Char} {needle : List Char} (skipped : List Char)
    (hskipped : ∀ c ∈ skipped, c ≠ first) (rest : List Char) :
    strstr (first :: needle) (skipped ++ rest) = strstr (first :: needle) rest := by
  induction skipped with
  | nil => rfl
  | cons c skipped ih =>
      rw [List.cons_append, strstr_skip_one (hskipped c List.mem_cons_self)]
      exact ih fun d hd => hskipped d (List.mem_cons_of_mem c hd)

/-- No occurrence of `needle` begins in a text, however the text goes on. -/
def clear (needle : List Char) : List Char → Bool
  | [] => true
  | c :: rest =>
      !needle.isPrefixOf (c :: rest) && !(c :: rest).isPrefixOf needle && clear needle rest

/-- Such text is skipped, too. -/
theorem strstr_clear {needle text : List Char} (hclear : clear needle text = true)
    (rest : List Char) : strstr needle (text ++ rest) = strstr needle rest := by
  induction text with
  | nil => rfl
  | cons c text ih =>
      simp only [clear, Bool.and_eq_true, Bool.not_eq_true'] at hclear
      obtain ⟨⟨hfirst, hsecond⟩, hlater⟩ := hclear
      have hnot : ¬needle.isPrefixOf (c :: (text ++ rest)) = true := by
        intro hstarts
        rcases List.prefix_or_prefix_of_prefix (List.isPrefixOf_iff_prefix.mp hstarts)
          (List.prefix_append (c :: text) rest) with hle | hle
        · exact Bool.false_ne_true (hfirst.symm.trans (List.isPrefixOf_iff_prefix.mpr hle))
        · exact Bool.false_ne_true (hsecond.symm.trans (List.isPrefixOf_iff_prefix.mpr hle))
      rw [List.cons_append, strstr, if_neg hnot]
      exact ih hlater

/-- The needle itself is found. -/
theorem strstr_found (needle rest : List Char) :
    strstr needle (needle ++ rest) = some (needle ++ rest) := by
  cases needle with
  | nil => cases rest <;> rfl
  | cons c needle =>
      rw [List.cons_append, strstr, if_pos]
      exact List.isPrefixOf_iff_prefix.mpr (List.prefix_append (c :: needle) rest)

/-! ## Numbers -/

/-- `isspace` in the C locale. -/
def isSpace (c : Char) : Bool :=
  c = ' ' || c = '\t' || c = '\n' || c = '\x0b' || c = '\x0c' || c = '\r'

/-- The range of a 64-bit `long`. -/
def clampLong (v : Int) : Int :=
  max (-0x8000000000000000) (min v 0x7fffffffffffffff)

/-- `strtol` in base 10: the value and the end pointer, `none` where `end == p`. -/
def strtol (s : List Char) : Option (Int × List Char) :=
  let t := s.dropWhile isSpace
  let negative := t.head? = some '-'
  let u := if t.head? = some '-' ∨ t.head? = some '+' then t.tail else t
  let digits := u.takeWhile Char.isDigit
  let magnitude : Int := Nat.ofDigitChars 10 digits 0
  if digits.isEmpty then none
  else some (clampLong (if negative then -magnitude else magnitude), u.dropWhile Char.isDigit)

/-- The conversion of a `long` to a 32-bit `int`. -/
def toInt (v : Int) : Int :=
  v.bmod 0x100000000

/-- `atoi`. -/
def atoi (s : List Char) : Int :=
  toInt (((strtol s).map Prod.fst).getD 0)

/-- `%u`. -/
def printUnsigned (n : Nat) : List Char :=
  Nat.toDigits 10 n

/-- `%d`. -/
def printInt (z : Int) : List Char :=
  if z < 0 then '-' :: printUnsigned z.natAbs else printUnsigned z.natAbs

/-- Text that does not continue a number. -/
def EndsNumber (rest : List Char) : Prop :=
  ∀ c ∈ rest.head?, c.isDigit = false

theorem endsNumber_cons {c : Char} {rest : List Char} (hc : c.isDigit = false) :
    EndsNumber (c :: rest) := by
  intro d hd
  cases hd
  exact hc

theorem isDigit_of_mem_printUnsigned {n : Nat} {c : Char} (hc : c ∈ printUnsigned n) :
    c.isDigit = true :=
  Nat.isDigit_of_mem_toDigits (by decide) (by decide) hc

theorem printInt_chars {z : Int} {c : Char} (hc : c ∈ printInt z) : c.isDigit = true ∨ c = '-' := by
  unfold printInt at hc
  split at hc
  · rcases List.mem_cons.mp hc with rfl | hdigit
    · exact Or.inr rfl
    · exact Or.inl (isDigit_of_mem_printUnsigned hdigit)
  · exact Or.inl (isDigit_of_mem_printUnsigned hc)

theorem isDigit_not_space {c : Char} (hc : c.isDigit = true) : isSpace c = false := by
  by_contra hspace
  simp only [isSpace, Bool.not_eq_false, Bool.or_eq_true, decide_eq_true_eq] at hspace
  rcases hspace with ((((rfl | rfl) | rfl) | rfl) | rfl) | rfl <;> exact absurd hc (by decide)

theorem isSpace_number (c : Char) (hc : c.isDigit = true ∨ c = '-') : isSpace c = false := by
  rcases hc with hdigit | rfl
  · exact isDigit_not_space hdigit
  · decide

/-- A printed number begins with no character of a class that has neither digits nor signs. -/
theorem dropWhile_printInt {p : Char → Bool} (hp : ∀ c, c.isDigit = true ∨ c = '-' → p c = false)
    (z : Int) (rest : List Char) : (printInt z ++ rest).dropWhile p = printInt z ++ rest := by
  have hne : printInt z ≠ [] := by
    unfold printInt
    split
    · simp
    · exact Nat.toDigits_ne_nil
  obtain ⟨c, digits, hprint⟩ := List.exists_cons_of_ne_nil hne
  have hc : p c = false := hp c (printInt_chars (hprint ▸ List.mem_cons_self))
  rw [hprint]
  exact List.dropWhile_cons_of_neg (by simp [hc])

/-- The digits of a printed number end where the text that follows begins. -/
theorem span_digits (digits rest : List Char) (hdigits : ∀ c ∈ digits, c.isDigit = true)
    (hrest : EndsNumber rest) :
    (digits ++ rest).takeWhile Char.isDigit = digits ∧
      (digits ++ rest).dropWhile Char.isDigit = rest := by
  induction digits with
  | nil =>
      cases rest with
      | nil => exact ⟨rfl, rfl⟩
      | cons c rest =>
          have hc := hrest c rfl
          simp [hc]
  | cons c digits ih =>
      have hc := hdigits c List.mem_cons_self
      obtain ⟨htake, hdrop⟩ := ih fun d hd => hdigits d (List.mem_cons_of_mem c hd)
      simp [hc, htake, hdrop]

theorem clampLong_of_range {v : Int} (hlow : -0x8000000000000000 ≤ v)
    (hhigh : v < 0x8000000000000000) :
    clampLong v = v := by
  unfold clampLong
  omega

/-- Reading a printed number gives it back. -/
theorem strtol_printInt {z : Int} (hlow : -0x8000000000000000 ≤ z)
    (hhigh : z < 0x8000000000000000) {rest : List Char} (hrest : EndsNumber rest) :
    strtol (printInt z ++ rest) = some (z, rest) := by
  have hall : ∀ c ∈ printUnsigned z.natAbs, c.isDigit = true :=
    fun c hc => isDigit_of_mem_printUnsigned hc
  obtain ⟨htake, hdrop⟩ := span_digits _ rest hall hrest
  have hvalue : Nat.ofDigitChars 10 (printUnsigned z.natAbs) 0 = z.natAbs :=
    Nat.ofDigitChars_ten_toDigits
  have hsome : (printUnsigned z.natAbs).isEmpty = false := by
    simp [printUnsigned, Nat.toDigits_ne_nil]
  have hspace := dropWhile_printInt (p := isSpace) isSpace_number z rest
  by_cases hneg : z < 0
  · have hz : -(z.natAbs : Int) = z := by omega
    rw [printInt, if_pos hneg, List.cons_append] at hspace ⊢
    simp only [strtol, hspace, List.head?_cons, true_or, if_true, List.tail_cons, htake, hdrop,
      hsome, hvalue, hz, clampLong_of_range hlow hhigh]
    rfl
  · have hz : (z.natAbs : Int) = z := by omega
    have hsign (sign : Char) (hsign : sign.isDigit = false) :
        (printUnsigned z.natAbs ++ rest).head? ≠ some sign := by
      obtain ⟨d, digits, hdigits⟩ := List.exists_cons_of_ne_nil
        (Nat.toDigits_ne_nil (n := z.natAbs) (b := 10))
      have hd : d.isDigit = true :=
        hall d (by rw [printUnsigned, hdigits]; exact List.mem_cons_self)
      rw [printUnsigned, hdigits]
      intro heq
      cases heq
      exact Bool.false_ne_true (hsign.symm.trans hd)
    rw [printInt, if_neg hneg] at hspace ⊢
    simp only [strtol, hspace, hsign '-' (by decide), hsign '+' (by decide), or_self, if_false,
      htake, hdrop, hsome, hvalue, hz, clampLong_of_range hlow hhigh]
    rfl

theorem toInt_of_range {v : Int} (hlow : -0x80000000 ≤ v) (hhigh : v < 0x80000000) :
    toInt v = v := by
  unfold toInt
  exact Int.bmod_eq_of_le_mul_two (by omega) (by omega)

/-- An `int` prints as at most ten digits and a sign. -/
theorem length_printInt_le {z : Int} (hlow : -0x80000000 ≤ z) (hhigh : z < 0x80000000) :
    (printInt z).length ≤ 11 := by
  have hdigits : (printUnsigned z.natAbs).length ≤ 10 :=
    (Nat.length_toDigits_le_iff (by decide) (by decide)).mpr (by omega)
  unfold printInt
  split
  · exact Nat.succ_le_succ hdigits
  · omega

/-! ## Lines -/

/-- The pieces between the characters that satisfy `sep`. -/
def split (sep : Char → Bool) : List Char → List (List Char)
  | [] => [[]]
  | c :: rest =>
      if sep c then [] :: split sep rest
      else
        match split sep rest with
        | [] => [[c]]
        | piece :: pieces => (c :: piece) :: pieces

/-- The tokens a `strtok_r` loop sees: the non-empty pieces. -/
def strtok (sep : Char → Bool) (s : List Char) : List (List Char) :=
  (split sep s).filter (· ≠ [])

theorem split_append_sep {sep : Char → Bool} (piece : List Char)
    (hpiece : ∀ c ∈ piece, sep c = false) {s : Char} (hs : sep s = true) (rest : List Char) :
    split sep (piece ++ s :: rest) = piece :: split sep rest := by
  induction piece with
  | nil => simp [split, hs]
  | cons c piece ih =>
      have hc := hpiece c List.mem_cons_self
      rw [List.cons_append, split, hc, ih fun d hd => hpiece d (List.mem_cons_of_mem c hd)]
      rfl

/-- A terminated line is one token. -/
theorem strtok_line {sep : Char → Bool} {line : List Char} (hne : line ≠ [])
    (hline : ∀ c ∈ line, sep c = false) {s : Char} (hs : sep s = true) :
    strtok sep (line ++ [s]) = [line] := by
  rw [strtok, split_append_sep line hline hs]
  simp [split, hne]

end CString
