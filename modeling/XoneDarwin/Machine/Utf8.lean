import Mathlib.Data.List.Basic

/-!
# UTF-8 as bytes

A valid piece of an encoded text is the encoding of a piece of the text: the first
byte of a character says that it is one.
-/

namespace Utf8

def encode (text : List Char) : List UInt8 :=
  text.flatMap String.utf8EncodeChar

/-- The text the bytes are the encoding of, if they are one. -/
def decode? (bytes : List UInt8) : Option (List Char) :=
  bytes.toByteArray.utf8Decode?.map Array.toList

@[simp] theorem encode_nil : encode [] = [] := rfl

@[simp] theorem encode_cons (c : Char) (text : List Char) :
    encode (c :: text) = String.utf8EncodeChar c ++ encode text := rfl

@[simp] theorem encode_append (first second : List Char) :
    encode (first ++ second) = encode first ++ encode second :=
  List.flatMap_append

theorem toByteArray_encode (text : List Char) : (encode text).toByteArray = text.utf8Encode := rfl

@[simp] theorem decode?_encode (text : List Char) : decode? (encode text) = some text := by
  rw [decode?, toByteArray_encode, List.utf8Decode?_utf8Encode]
  simp

theorem encode_injective : Function.Injective encode := by
  intro first second hsame
  have hdecode := congrArg decode? hsame
  rw [decode?_encode, decode?_encode] at hdecode
  exact Option.some.inj hdecode

theorem decode?_eq_some_iff {bytes : List UInt8} {text : List Char} :
    decode? bytes = some text ↔ bytes = encode text := by
  constructor
  · intro hdecode
    obtain ⟨chars, hchars, rfl⟩ := Option.map_eq_some_iff.mp hdecode
    have hsome : bytes.toByteArray.utf8Decode?.isSome := by rw [hchars]; rfl
    have hencode := ByteArray.utf8Encode_get_utf8Decode? (h := hsome)
    simp only [hchars, Option.get_some] at hencode
    exact List.toByteArray_inj.mp (by rw [toByteArray_encode, hencode])
  · rintro rfl
    exact decode?_encode text

/-! ## Pieces of an encoding -/

theorem eq_nil_of_isFirstByte {c : Char} {first rest : List UInt8} {b : UInt8}
    (hsplit : String.utf8EncodeChar c = first ++ b :: rest) (hb : b.IsUTF8FirstByte) :
    first = [] := by
  have hlt : first.length < (String.utf8EncodeChar c).length := by simp [hsplit]
  have hget : (String.utf8EncodeChar c)[first.length] = b := by simp [hsplit]
  rw [← hget, UInt8.isUTF8FirstByte_getElem_utf8EncodeChar] at hb
  exact List.length_eq_zero_iff.mp hb

theorem exists_firstByte (c : Char) :
    ∃ b rest, String.utf8EncodeChar c = b :: rest ∧ b.IsUTF8FirstByte := by
  obtain ⟨b, rest, hsplit⟩ := List.exists_cons_of_ne_nil (String.utf8EncodeChar_ne_nil (c := c))
  have hlt : 0 < (String.utf8EncodeChar c).length := by simp [hsplit]
  have hget : (String.utf8EncodeChar c)[0] = b := by simp [hsplit]
  refine ⟨b, rest, hsplit, ?_⟩
  rw [← hget, UInt8.isUTF8FirstByte_getElem_utf8EncodeChar]

theorem prefix_of_encode {part text : List Char} {after : List UInt8}
    (hsplit : encode text = encode part ++ after) :
    ∃ rest, text = part ++ rest ∧ after = encode rest := by
  have hbytes : part.utf8Encode ++ after.toByteArray = text.utf8Encode := by
    rw [← toByteArray_encode, ← toByteArray_encode, hsplit, List.toByteArray_append]
  obtain ⟨rest, rfl⟩ := List.isPrefix_of_utf8Encode_append_eq_utf8Encode _ hbytes
  rw [encode_append] at hsplit
  exact ⟨rest, rfl, (List.append_cancel_left hsplit).symm⟩

/-- The encoding of a text inside the encoding of another stands where the text stands. -/
theorem exists_of_encode_eq {text part : List Char} {before after : List UInt8}
    (hpart : part ≠ []) (hsplit : encode text = before ++ (encode part ++ after)) :
    ∃ front rest, text = front ++ (part ++ rest) ∧ before = encode front ∧ after = encode rest := by
  induction text generalizing before with
  | nil =>
      rw [encode_nil, eq_comm, List.append_eq_nil_iff, List.append_eq_nil_iff] at hsplit
      exact absurd (encode_injective hsplit.2.1) hpart
  | cons c text ih =>
      have hchars := hsplit
      rw [encode_cons, List.append_eq_append_iff] at hchars
      rcases hchars with ⟨inner, hbefore, htail⟩ | ⟨inner, hchar, htail⟩
      · obtain ⟨front, rest, rfl, rfl, hrest⟩ := ih htail
        exact ⟨c :: front, rest, rfl, hbefore, hrest⟩
      · cases inner with
        | nil =>
            obtain ⟨rest, rfl, hrest⟩ := prefix_of_encode htail.symm
            exact ⟨[c], rest, rfl, by simp [hchar], hrest⟩
        | cons b inner =>
            -- The part would start inside the character, with a byte that starts one.
            obtain ⟨d, part, rfl⟩ := List.exists_cons_of_ne_nil hpart
            obtain ⟨first, others, hd, hfirst⟩ := exists_firstByte d
            rw [encode_cons, hd] at htail
            obtain ⟨rfl, -⟩ := List.cons.inj htail
            obtain rfl := eq_nil_of_isFirstByte hchar hfirst
            obtain ⟨rest, hrest, hafter⟩ := prefix_of_encode hsplit
            exact ⟨[], rest, hrest, rfl, hafter⟩

end Utf8
