import XoneDarwin.Machine.CString

/-!
# Flat JSON objects

Objects of strings, numbers and truth values, written without blanks. What was written is
read back.
-/

namespace Machine

open CString

/-- A value that is no object and no array. -/
inductive Json
  | str (s : List Char)
  | int (n : Int)
  | bool (b : Bool)
  deriving DecidableEq

namespace Json

/-- The members of an object. -/
abbrev Members := List (List Char × Json)

/-- A character that stands for itself in a string. -/
def plain (c : Char) : Bool :=
  0x20 ≤ c.toNat && c != '"' && c != '\\'

/-! ## Writing -/

def writeString (s : List Char) : List Char :=
  '"' :: (s ++ ['"'])

def write : Json → List Char
  | .str s => writeString s
  | .int n => printInt n
  | .bool b => (if b then "true" else "false").toList

def writeMember (member : List Char × Json) : List Char :=
  writeString member.1 ++ ':' :: member.2.write

/-- Each member behind a comma, and the brace that closes the object. -/
def writeRest : Members → List Char
  | [] => ['\x7d']
  | member :: rest => ',' :: (writeMember member ++ writeRest rest)

def writeObject : Members → List Char
  | [] => ['\x7b', '\x7d']
  | member :: rest => '\x7b' :: (writeMember member ++ writeRest rest)

theorem writeRest_brace (members : Members) : ∃ inner, writeRest members = inner ++ ['\x7d'] := by
  induction members with
  | nil => exact ⟨[], rfl⟩
  | cons member rest ih =>
      obtain ⟨inner, hinner⟩ := ih
      exact ⟨',' :: (writeMember member ++ inner), by rw [writeRest, hinner]; simp⟩

/-- An object is written between braces. -/
theorem writeObject_braces (members : Members) :
    ∃ inner, writeObject members = '\x7b' :: (inner ++ ['\x7d']) := by
  cases members with
  | nil => exact ⟨[], rfl⟩
  | cons member rest =>
      obtain ⟨inner, hinner⟩ := writeRest_brace rest
      exact ⟨writeMember member ++ inner, by rw [writeObject, hinner]; simp⟩

/-! ## Reading -/

/-- The characters up to the closing mark, and what follows it. -/
def readString? : List Char → Option (List Char × List Char)
  | [] => none
  | c :: text =>
      if c = '"' then some ([], text)
      else if plain c then (readString? text).map fun read => (c :: read.1, read.2)
      else none

/-- A number; leading zeros are let through. -/
def readInt? (text : List Char) : Option (Int × List Char) :=
  let unsigned := if text.head? = some '-' then text.tail else text
  let digits := unsigned.takeWhile Char.isDigit
  let magnitude : Int := Nat.ofDigitChars 10 digits 0
  if digits.isEmpty then none
  else some (if text.head? = some '-' then -magnitude else magnitude,
    unsigned.dropWhile Char.isDigit)

def read? : List Char → Option (Json × List Char)
  | '"' :: text => (readString? text).map fun read => (.str read.1, read.2)
  | 't' :: 'r' :: 'u' :: 'e' :: text => some (.bool true, text)
  | 'f' :: 'a' :: 'l' :: 's' :: 'e' :: text => some (.bool false, text)
  | text => (readInt? text).map fun read => (.int read.1, read.2)

def readMember? : List Char → Option ((List Char × Json) × List Char)
  | '"' :: text => do
      let key ← readString? text
      match key.2 with
      | ':' :: text =>
          let value ← read? text
          return ((key.1, value.1), value.2)
      | _ => none
  | _ => none

/-- The members behind the first one, `fuel` of them at most. -/
def readRest? : Nat → List Char → Option Members
  | _, ['\x7d'] => some []
  | fuel + 1, ',' :: text => do
      let member ← readMember? text
      let rest ← readRest? fuel member.2
      return member.1 :: rest
  | _, _ => none

/-- An object that is the whole text. A member takes more than one character. -/
def readObject? : List Char → Option Members
  | ['\x7b', '\x7d'] => some []
  | '\x7b' :: text => do
      let member ← readMember? text
      let rest ← readRest? text.length member.2
      return member.1 :: rest
  | _ => none

/-! ## Round trip -/

/-- A value that is written without escapes. -/
def Plain : Json → Prop
  | .str s => ∀ c ∈ s, plain c = true
  | _ => True

/-- Members that are written without escapes. -/
def PlainMembers (members : Members) : Prop :=
  ∀ member ∈ members, (∀ c ∈ member.1, plain c = true) ∧ member.2.Plain

theorem readString?_append {s : List Char} (hs : ∀ c ∈ s, plain c = true) (text : List Char) :
    readString? (s ++ '"' :: text) = some (s, text) := by
  induction s with
  | nil => rfl
  | cons c s ih =>
      have hc := hs c List.mem_cons_self
      have hquote : c ≠ '"' := by
        rintro rfl
        exact absurd hc (by decide)
      rw [List.cons_append, readString?, if_neg hquote, if_pos hc,
        ih fun d hd => hs d (List.mem_cons_of_mem c hd)]
      rfl

theorem readInt?_printInt (n : Int) {text : List Char} (htext : EndsNumber text) :
    readInt? (printInt n ++ text) = some (n, text) := by
  have hall : ∀ c ∈ printUnsigned n.natAbs, c.isDigit = true :=
    fun c hc => isDigit_of_mem_printUnsigned hc
  obtain ⟨htake, hdrop⟩ := span_digits _ text hall htext
  have hvalue : Nat.ofDigitChars 10 (printUnsigned n.natAbs) 0 = n.natAbs :=
    Nat.ofDigitChars_ten_toDigits
  obtain ⟨d, digits, hdigits⟩ := List.exists_cons_of_ne_nil
    (Nat.toDigits_ne_nil (n := n.natAbs) (b := 10))
  have hsome : (printUnsigned n.natAbs).isEmpty = false := by
    rw [printUnsigned, hdigits]
    rfl
  by_cases hneg : n < 0
  · have hn : -(n.natAbs : Int) = n := by omega
    rw [printInt, if_pos hneg, List.cons_append]
    simp only [readInt?, List.head?_cons, if_true, List.tail_cons, htake, hdrop, hsome, hvalue, hn]
    rfl
  · have hn : (n.natAbs : Int) = n := by omega
    have hsign : (printUnsigned n.natAbs ++ text).head? ≠ some '-' := by
      have hd : d.isDigit = true :=
        hall d (by rw [printUnsigned, hdigits]; exact List.mem_cons_self)
      rw [printUnsigned, hdigits]
      intro heq
      cases heq
      exact absurd hd (by decide)
    rw [printInt, if_neg hneg]
    simp only [readInt?, hsign, if_false, htake, hdrop, hsome, hvalue, hn]
    rfl

theorem read?_printInt (n : Int) {text : List Char} (htext : EndsNumber text) :
    read? (printInt n ++ text) = some (.int n, text) := by
  have hread := readInt?_printInt n htext
  obtain ⟨c, chars, hchars⟩ : ∃ c chars, printInt n = c :: chars := by
    unfold printInt
    split
    · exact ⟨_, _, rfl⟩
    · exact List.exists_cons_of_ne_nil Nat.toDigits_ne_nil
  have hc := printInt_chars (z := n) (c := c) (hchars ▸ List.mem_cons_self)
  rw [hchars, List.cons_append] at hread ⊢
  -- neither a digit nor a sign begins another kind of value
  have hfirst : c ≠ '"' ∧ c ≠ 't' ∧ c ≠ 'f' := by
    refine ⟨?_, ?_, ?_⟩ <;> rintro rfl <;> exact absurd hc (by decide)
  unfold read?
  split
  next heq => exact absurd (List.cons.inj heq).1 hfirst.1
  next heq => exact absurd (List.cons.inj heq).1 hfirst.2.1
  next heq => exact absurd (List.cons.inj heq).1 hfirst.2.2
  next => rw [hread]; rfl

theorem read?_write {value : Json} (hvalue : value.Plain) {text : List Char}
    (htext : EndsNumber text) : read? (value.write ++ text) = some (value, text) := by
  cases value with
  | str s =>
      have hread := readString?_append hvalue text
      rw [write, writeString, List.cons_append, List.append_assoc]
      simp only [read?, List.singleton_append, hread, Option.map_some]
  | int n => exact read?_printInt n htext
  | bool b => cases b <;> rfl

theorem readMember?_write {member : List Char × Json} (hkey : ∀ c ∈ member.1, plain c = true)
    (hvalue : member.2.Plain) {text : List Char} (htext : EndsNumber text) :
    readMember? (writeMember member ++ text) = some (member, text) := by
  have hread := readString?_append hkey (':' :: (member.2.write ++ text))
  have hmember : writeMember member ++ text =
      '"' :: (member.1 ++ '"' :: (':' :: (member.2.write ++ text))) := by
    simp [writeMember, writeString]
  rw [hmember]
  simp only [readMember?, hread, Option.bind_eq_bind, Option.bind_some,
    read?_write hvalue htext]
  rfl

theorem endsNumber_writeRest (members : Members) : EndsNumber (writeRest members) := by
  cases members with
  | nil => exact endsNumber_cons (by decide)
  | cons member rest => exact endsNumber_cons (by decide)

theorem readRest?_write {members : Members} (hmembers : PlainMembers members) {fuel : Nat}
    (hfuel : members.length ≤ fuel) : readRest? fuel (writeRest members) = some members := by
  induction members generalizing fuel with
  | nil => cases fuel <;> rfl
  | cons member rest ih =>
      obtain ⟨hmember, hrest⟩ := List.forall_mem_cons.mp hmembers
      cases fuel with
      | zero => exact absurd hfuel (Nat.not_succ_le_zero _)
      | succ fuel =>
          simp only [writeRest, readRest?, Option.bind_eq_bind, Option.bind_some,
            readMember?_write hmember.1 hmember.2 (endsNumber_writeRest rest),
            ih hrest (Nat.le_of_succ_le_succ hfuel)]
          rfl

theorem length_le_writeRest (members : Members) : members.length ≤ (writeRest members).length := by
  induction members with
  | nil => exact Nat.zero_le _
  | cons member rest ih =>
      rw [writeRest, List.length_cons, List.length_cons, List.length_append]
      exact Nat.succ_le_succ (Nat.le_trans ih (Nat.le_add_left _ _))

/-- Members that are written without escapes are read back. -/
theorem readObject?_write {members : Members} (hmembers : PlainMembers members) :
    readObject? (writeObject members) = some members := by
  cases members with
  | nil => rfl
  | cons member rest =>
      obtain ⟨hmember, hrest⟩ := List.forall_mem_cons.mp hmembers
      have hread := readMember?_write hmember.1 hmember.2 (endsNumber_writeRest rest)
      have hlength : rest.length ≤ (writeMember member ++ writeRest rest).length := by
        rw [List.length_append]
        exact Nat.le_trans (length_le_writeRest rest) (Nat.le_add_left _ _)
      rw [writeObject]
      unfold readObject?
      split
      next heq =>
        rw [(List.cons.inj heq).2] at hread
        cases hread
      next text heq =>
        obtain rfl := (List.cons.inj heq).2
        simp only [hread, Option.bind_eq_bind, Option.bind_some, readRest?_write hrest hlength]
        rfl
      next hnot => exact absurd rfl (hnot _)

end Json

end Machine
