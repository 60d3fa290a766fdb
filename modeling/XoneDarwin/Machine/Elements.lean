import Mathlib.Data.List.Basic

/-!
# Tagged elements

A tag, a length and as many values, one element after the other. What was written is
read back.
-/

namespace Machine

/-- A tag and what it says. -/
structure Element where
  tag : UInt8
  value : List UInt8
  deriving DecidableEq

namespace Element

/-- The element as bytes; a longer value does not fit its length. -/
def bytes (element : Element) : List UInt8 :=
  element.tag :: UInt8.ofNat element.value.length :: element.value

/-- The elements of a text, if it is one after the other to its end. -/
def read? : List UInt8 → Option (List Element)
  | [] => some []
  | [_] => none
  | tag :: length :: rest =>
      if length.toNat ≤ rest.length then
        (read? (rest.drop length.toNat)).map (⟨tag, rest.take length.toNat⟩ :: ·)
      else none
  termination_by bytes => bytes.length
  decreasing_by
    rw [List.length_drop, List.length_cons, List.length_cons]
    exact Nat.lt_succ_of_le (Nat.le_succ_of_le (Nat.sub_le _ _))

/-- Elements that fit are read back. -/
theorem read?_bytes {elements : List Element}
    (hfits : ∀ element ∈ elements, element.value.length < 256) :
    read? (elements.flatMap bytes) = some elements := by
  induction elements with
  | nil => rw [List.flatMap_nil, read?]
  | cons element rest ih =>
      obtain ⟨hfirst, hrest⟩ := List.forall_mem_cons.mp hfits
      have hlength : (UInt8.ofNat element.value.length).toNat = element.value.length :=
        UInt8.toNat_ofNat_of_lt' hfirst
      rw [List.flatMap_cons, bytes, List.cons_append, List.cons_append, read?, hlength,
        if_pos (by simp), List.drop_left, List.take_left, ih hrest]
      rfl

end Element

end Machine
