import Mathlib.Data.List.Basic
import Mathlib.Tactic.Common

/-!
# Bytes in memory

A C pointer into a buffer is the list of bytes from the pointer to the end of
the buffer. Words are little-endian, as on every host the daemon runs on.
-/

namespace XoneDarwin

/-- `p[i]`. -/
def byteAt (p : List UInt8) (i : Nat) : UInt8 :=
  p.getD i 0

@[simp] theorem byteAt_cons_zero (b : UInt8) (p : List UInt8) : byteAt (b :: p) 0 = b := rfl

@[simp] theorem byteAt_cons_succ (b : UInt8) (p : List UInt8) (i : Nat) :
    byteAt (b :: p) (i + 1) = byteAt p i := by
  simp [byteAt]

theorem byteAt_append_left {p q : List UInt8} {i : Nat} (hi : i < p.length) :
    byteAt (p ++ q) i = byteAt p i := by
  simp only [byteAt, List.getD_eq_getElem?_getD, List.getElem?_append_left hi]

theorem byteAt_append_right {p q : List UInt8} (i : Nat) :
    byteAt (p ++ q) (p.length + i) = byteAt q i := by
  simp [byteAt, List.getD_eq_getElem?_getD, List.getElem?_append_right]

theorem byteAt_drop (p : List UInt8) (k i : Nat) : byteAt (p.drop k) i = byteAt p (k + i) := by
  simp [byteAt, List.getD_eq_getElem?_getD]

theorem byteAt_take (p : List UInt8) {n i : Nat} (hi : i < n) :
    byteAt (p.take n) i = byteAt p i := by
  simp [byteAt, List.getD_eq_getElem?_getD, hi]

/-- `memcpy(&x, p, 2)` into a `uint16_t`. -/
def load16 (p : List UInt8) : UInt16 :=
  UInt16.ofNat ((byteAt p 0).toNat + 0x100 * (byteAt p 1).toNat)

/-- `memcpy(&x, p, 4)` into a `uint32_t`. -/
def load32 (p : List UInt8) : UInt32 :=
  UInt32.ofNat ((byteAt p 0).toNat + 0x100 * (byteAt p 1).toNat +
    0x10000 * (byteAt p 2).toNat + 0x1000000 * (byteAt p 3).toNat)

/-- The two bytes of a `uint16_t`. -/
def store16 (x : UInt16) : List UInt8 :=
  [UInt8.ofNat x.toNat, UInt8.ofNat (x.toNat / 0x100)]

/-- The four bytes of a `uint32_t`. -/
def store32 (x : UInt32) : List UInt8 :=
  [UInt8.ofNat x.toNat, UInt8.ofNat (x.toNat / 0x100),
    UInt8.ofNat (x.toNat / 0x10000), UInt8.ofNat (x.toNat / 0x1000000)]

@[simp] theorem length_store16 (x : UInt16) : (store16 x).length = 2 := rfl

@[simp] theorem length_store32 (x : UInt32) : (store32 x).length = 4 := rfl

theorem load32_store32 (x : UInt32) (rest : List UInt8) : load32 (store32 x ++ rest) = x := by
  have hx := x.toNat_lt
  apply UInt32.toNat_inj.mp
  simp [load32, store32]
  omega

/-- Number of zero bytes that fill `n` up to a multiple of four. -/
def pad4 (n : Nat) : Nat :=
  (4 - n % 4) % 4

theorem pad4_lt (n : Nat) : pad4 n < 4 := Nat.mod_lt _ (by decide)

/-- A six-byte IEEE 802 address. -/
structure Mac where
  b0 : UInt8
  b1 : UInt8
  b2 : UInt8
  b3 : UInt8
  b4 : UInt8
  b5 : UInt8
  deriving DecidableEq, Repr

namespace Mac

/-- The address stored at a pointer. -/
def load (p : List UInt8) : Mac :=
  ⟨byteAt p 0, byteAt p 1, byteAt p 2, byteAt p 3, byteAt p 4, byteAt p 5⟩

def bytes (mac : Mac) : List UInt8 :=
  [mac.b0, mac.b1, mac.b2, mac.b3, mac.b4, mac.b5]

@[simp] theorem length_bytes (mac : Mac) : mac.bytes.length = 6 := rfl

end Mac

end XoneDarwin
