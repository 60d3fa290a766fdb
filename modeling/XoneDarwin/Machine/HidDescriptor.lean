import Mathlib.Data.Nat.Digits.Defs
import Mathlib.Tactic.Common
import XoneDarwin.Machine.Run

/-!
# HID report descriptors

A report descriptor is a sequence of short items, each a prefix byte and up to four data
bytes. Global items set up what the next main items declare, local items name their
usages, and an input item lays out its fields one after the other behind those before it.
The host reads a report through that layout. A value outside the logical range of its field
is none: a field with a null state then has no position, any other keeps the one it had.
Report ids and the items that push and pop the item state are left out.
-/

namespace Machine.Hid

open Machine

/-- Bytes as a number, the least significant first. -/
def littleEndian (bytes : List UInt8) : Nat :=
  Nat.ofDigits 256 (bytes.map UInt8.toNat)

/-- The same number in two's complement. -/
def signed (bytes : List UInt8) : Int :=
  (littleEndian bytes : Int).bmod (256 ^ bytes.length)

/-! ## Items -/

/-- The items that bear on the layout of an input report. -/
inductive Item
  | usagePage (page : Nat)
  | logicalMinimum (value : Int)
  /-- signed or not as the minimum is negative or not -/
  | logicalMaximum (data : List UInt8)
  | reportSize (bits : Nat)
  | reportCount (count : Nat)
  | usage (usage : Nat)
  | usageMinimum (usage : Nat)
  | usageMaximum (usage : Nat)
  | input (flags : Nat)
  | collection
  | other

/-- The item with a prefix, its length bits cleared, and its data. -/
def Item.ofTag (tag : Nat) (data : List UInt8) : Item :=
  match tag with
  | 0x04 => .usagePage (littleEndian data)
  | 0x14 => .logicalMinimum (signed data)
  | 0x24 => .logicalMaximum data
  | 0x74 => .reportSize (littleEndian data)
  | 0x94 => .reportCount (littleEndian data)
  | 0x08 => .usage (littleEndian data)
  | 0x18 => .usageMinimum (littleEndian data)
  | 0x28 => .usageMaximum (littleEndian data)
  | 0x80 => .input (littleEndian data)
  | 0xa0 => .collection
  | 0xc0 => .collection
  | _ => .other

/-- The number of data bytes, from the two low bits of the prefix. -/
def dataLength (head : Nat) : Nat :=
  if head % 4 = 3 then 4 else head % 4

/-- The items of a descriptor, at most `fuel` of them. -/
def itemsFrom : Nat → List UInt8 → List Item
  | 0, _ => []
  | _ + 1, [] => []
  | fuel + 1, head :: rest =>
      .ofTag (head.toNat / 4 * 4) (rest.take (dataLength head.toNat)) ::
        itemsFrom fuel (rest.drop (dataLength head.toNat))

/-- A descriptor has no more items than bytes. -/
def items (descriptor : List UInt8) : List Item :=
  itemsFrom descriptor.length descriptor

/-! ## Layout -/

/-- A variable data field of the input report, `offset` and `size` in bits. -/
structure Field where
  usagePage : Nat
  usage : Nat
  logicalMinimum : Int
  logicalMaximum : Int
  relative : Bool
  nullState : Bool
  offset : Nat
  size : Nat
  deriving DecidableEq

/-- The item state and the fields laid out so far. -/
structure Walk where
  usagePage : Nat := 0
  logicalMinimum : Int := 0
  logicalMaximum : List UInt8 := []
  reportSize : Nat := 0
  reportCount : Nat := 0
  usages : List Nat := []
  usageMinimum : Nat := 0
  offset : Nat := 0
  fields : List Field := []

/-- The field with number `i` of an input item; when the usages run out, the last one is used
again. -/
def Walk.field (walk : Walk) (flags i : Nat) : Field where
  usagePage := walk.usagePage
  usage := walk.usages.getD i (walk.usages.getLastD 0)
  logicalMinimum := walk.logicalMinimum
  logicalMaximum :=
    if walk.logicalMinimum < 0 then signed walk.logicalMaximum
    else littleEndian walk.logicalMaximum
  relative := flags.testBit 2
  nullState := flags.testBit 6
  offset := walk.offset + i * walk.reportSize
  size := walk.reportSize

/-- One item. Constant items and arrays only take their room. -/
def Walk.step (walk : Walk) : Item → Walk
  | .usagePage page => { walk with usagePage := page }
  | .logicalMinimum value => { walk with logicalMinimum := value }
  | .logicalMaximum data => { walk with logicalMaximum := data }
  | .reportSize bits => { walk with reportSize := bits }
  | .reportCount count => { walk with reportCount := count }
  | .usage usage => { walk with usages := walk.usages ++ [usage] }
  | .usageMinimum usage => { walk with usageMinimum := usage }
  | .usageMaximum usage =>
      { walk with usages := walk.usages ++
          List.range' walk.usageMinimum (usage + 1 - walk.usageMinimum) }
  | .input flags =>
      { walk with
        usages := []
        offset := walk.offset + walk.reportCount * walk.reportSize
        fields := walk.fields ++
          if flags.testBit 1 ∧ ¬flags.testBit 0 then
            (List.range walk.reportCount).map (walk.field flags)
          else [] }
  | .collection => { walk with usages := [] }
  | .other => walk

def walk (descriptor : List UInt8) : Walk :=
  (items descriptor).foldl Walk.step {}

/-- The fields of the input report. -/
def layout (descriptor : List UInt8) : List Field :=
  (walk descriptor).fields

/-- The length of the input report in bits. -/
def reportBits (descriptor : List UInt8) : Nat :=
  (walk descriptor).offset

/-! ## Reports -/

/-- `size` bits of a report from bit `offset` on. -/
def bitsAt (report : List UInt8) (offset size : Nat) : Nat :=
  littleEndian report / 2 ^ offset % 2 ^ size

/-- A value, if it is within its range. -/
def within (minimum maximum value : Int) : Option Int :=
  if minimum ≤ value ∧ value ≤ maximum then some value else none

theorem within_of_le {minimum maximum value : Int} (hlow : minimum ≤ value)
    (hhigh : value ≤ maximum) : within minimum maximum value = some value :=
  if_pos ⟨hlow, hhigh⟩

theorem within_eq_some {minimum maximum value read : Int} :
    within minimum maximum value = some read ↔
      value = read ∧ minimum ≤ value ∧ value ≤ maximum := by
  rw [within, Option.ite_none_right_eq_some, Option.some.injEq, and_comm]

theorem within_isSome {minimum maximum value : Int} :
    (within minimum maximum value).isSome = true ↔ minimum ≤ value ∧ value ≤ maximum := by
  rw [within]
  split
  next hwithin => exact iff_of_true rfl hwithin
  next houtside => exact iff_of_false Bool.false_ne_true houtside

/-- The number in the bits of a field. -/
def Field.raw (field : Field) (report : List UInt8) : Int :=
  if field.logicalMinimum < 0 then
    (bitsAt report field.offset field.size : Int).bmod (2 ^ field.size)
  else bitsAt report field.offset field.size

/-- The value of a field, none outside its logical range. -/
def Field.read (field : Field) (report : List UInt8) : Option Int :=
  within field.logicalMinimum field.logicalMaximum (field.raw report)

/-- A usage and the value a report has for it, if it has one. -/
structure Control where
  usagePage : Nat
  usage : Nat
  value : Option Int
  deriving DecidableEq

/-- A report as the host reads it. -/
def controls (descriptor report : List UInt8) : List Control :=
  (layout descriptor).map fun field => ⟨field.usagePage, field.usage, field.read report⟩

/-! ## Parts of a report -/

theorem littleEndian_append (front back : List UInt8) :
    littleEndian (front ++ back) =
      littleEndian front + 2 ^ (8 * front.length) * littleEndian back := by
  rw [littleEndian, List.map_append, Nat.ofDigits_append, List.length_map, Nat.pow_mul]
  rfl

theorem littleEndian_lt (bytes : List UInt8) : littleEndian bytes < 2 ^ (8 * bytes.length) := by
  have hdigits : ∀ digit ∈ bytes.map UInt8.toNat, digit < 256 := by
    intro digit hdigit
    obtain ⟨byte, -, rfl⟩ := List.mem_map.mp hdigit
    exact byte.toNat_lt
  have hlt := Nat.ofDigits_lt_base_pow_length (by decide : 1 < 256) hdigits
  rwa [List.length_map, show (256 : Nat) = 2 ^ 8 from rfl, ← Nat.pow_mul] at hlt

/-- Bits behind the front are bits of the back, -/
theorem bitsAt_back (front back : List UInt8) (offset size : Nat) :
    bitsAt (front ++ back) (8 * front.length + offset) size = bitsAt back offset size := by
  have hfront := littleEndian_lt front
  rw [bitsAt, bitsAt, littleEndian_append, Nat.pow_add, ← Nat.div_div_eq_div_mul,
    Nat.add_mul_div_left _ _ (Nat.two_pow_pos _), Nat.div_eq_of_lt hfront, Nat.zero_add]

/-- and bits within the front are bits of it. -/
theorem bitsAt_front (front back : List UInt8) {offset size : Nat}
    (hwithin : offset + size ≤ 8 * front.length) :
    bitsAt (front ++ back) offset size = bitsAt front offset size := by
  have hsplit (n : Nat) : n / 2 ^ offset % 2 ^ size = n % 2 ^ (offset + size) / 2 ^ offset := by
    rw [Nat.pow_add, Nat.mod_mul_right_div_self]
  have hdvd : 2 ^ (offset + size) ∣ 2 ^ (8 * front.length) := Nat.pow_dvd_pow 2 hwithin
  rw [bitsAt, bitsAt, littleEndian_append, hsplit, hsplit, Nat.add_mod,
    Nat.mod_eq_zero_of_dvd (hdvd.mul_right _), Nat.add_zero, Nat.mod_mod]

/-- Every pattern of its bits is within its range. -/
def Field.Full (field : Field) : Prop :=
  if field.logicalMinimum < 0 then
    field.logicalMinimum ≤ -((2 ^ field.size : Nat) / 2 : Int) ∧
      (((2 ^ field.size : Nat) + 1) / 2 : Int) ≤ field.logicalMaximum + 1
  else field.logicalMinimum = 0 ∧ (2 ^ field.size : Nat) ≤ field.logicalMaximum + 1

theorem Field.Full.read_isSome {field : Field} (hfull : field.Full) (report : List UInt8) :
    (field.read report).isSome = true := by
  have hpos : 0 < 2 ^ field.size := Nat.two_pow_pos _
  rw [Field.read, within_isSome, Field.raw]
  rw [Field.Full] at hfull
  split at hfull
  next hsigned =>
    rw [if_pos hsigned]
    constructor
    · exact hfull.1.trans (Int.le_bmod hpos)
    · exact Int.lt_add_one_iff.mp ((Int.bmod_lt hpos).trans_le hfull.2)
  next hunsigned =>
    have hlt : bitsAt report field.offset field.size < 2 ^ field.size := Nat.mod_lt _ hpos
    rw [if_neg hunsigned, hfull.1]
    constructor
    · exact Int.natCast_nonneg _
    · exact Int.lt_add_one_iff.mp ((Int.ofNat_lt.mpr hlt).trans_le hfull.2)

/-! ## One report after the other -/

/-- What a host makes of a field: an absolute field is its last value, a relative one adds up, and
without a value there is no position in a field with a null state and the old one in any other. -/
def Field.track (field : Field) (position : Option Int) (report : List UInt8) : Option Int :=
  match field.read report with
  | some value => some (if field.relative then position.getD 0 + value else value)
  | none => if field.nullState then none else position

/-- Where a host is after some reports, each field in its middle before the first. -/
def Field.shown (field : Field) (reports : List (List UInt8)) : Option Int :=
  run field.track (some 0) reports

section

variable {field : Field}

theorem Field.track_some {position : Option Int} {report : List UInt8} {value : Int}
    (hread : field.read report = some value) :
    field.track position report =
      some (if field.relative then position.getD 0 + value else value) := by
  rw [track, hread]

/-- One report more. -/
theorem Field.shown_concat (field : Field) (reports : List (List UInt8)) (last : List UInt8) :
    field.shown (reports ++ [last]) = field.track (field.shown reports) last :=
  run_concat ..

/-- The position is lost in a null state only. -/
theorem Field.shown_isSome (hnull : field.nullState = false) (reports : List (List UInt8)) :
    (field.shown reports).isSome = true := by
  refine Machine.run_invariant (fun position : Option Int => position.isSome = true) ?_ rfl reports
  intro position report hposition
  rw [track, hnull]
  cases field.read report with
  | some value => rfl
  | none => exact hposition

/-- An absolute field with a null state is where a report says, -/
theorem Field.track_null (habsolute : field.relative = false) (hnull : field.nullState = true)
    (position : Option Int) (report : List UInt8) :
    field.track position report = field.read report := by
  cases hread : field.read report with
  | some value => rw [track_some hread, habsolute, if_neg Bool.false_ne_true]
  | none => rw [track, hread, hnull, if_pos rfl]

/-- one without if the value is in range, -/
theorem Field.track_absolute_iff (habsolute : field.relative = false)
    (hnull : field.nullState = false) {position : Option Int} (hposition : position.isSome = true)
    (report : List UInt8) :
    field.track position report = field.read report ↔ (field.read report).isSome = true := by
  cases hread : field.read report with
  | some value =>
      rw [track_some hread, habsolute, if_neg Bool.false_ne_true]
      exact iff_of_true rfl rfl
  | none =>
      have hkept : field.track position report = position := by
        simp [track, hread, hnull]
      refine iff_of_false (fun hnone => ?_) Bool.false_ne_true
      rw [← hkept, hnone] at hposition
      cases hposition

/-- and a relative field if it was in the middle before. -/
theorem Field.track_relative_iff (hrelative : field.relative = true) {position : Option Int}
    (hposition : position.isSome = true) {report : List UInt8} {value : Int}
    (hread : field.read report = some value) :
    field.track position report = field.read report ↔ position = some 0 := by
  obtain ⟨place, rfl⟩ := Option.isSome_iff_exists.mp hposition
  rw [track_some hread, if_pos hrelative, hread, Option.getD_some, Option.some.injEq,
    Option.some.injEq]
  omega

end

end Machine.Hid
