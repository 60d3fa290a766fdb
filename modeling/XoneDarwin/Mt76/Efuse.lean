import Mathlib.Tactic.IntervalCases
import XoneDarwin.Mt76.Usb

/-!
# EFUSE reads

`mt76EfuseRead` kicks one 16-byte block and copies data words. What the fuses
hold is an assumption on the dongle, `ReadsEfuse`, stated on its registers.
-/

namespace XoneDarwin

open Machine (Emits)

abbrev mtEeMacAddr : UInt8 := 0x04
abbrev mtEeXtalTrim1 : UInt8 := 0x3a
abbrev mtEeXtalTrim2 : UInt8 := 0x9e

/-- `memcpy(out + i, data, data.length)` into an array. -/
def overwrite (out : List UInt8) (i : Nat) (data : List UInt8) : List UInt8 :=
  out.take i ++ data ++ out.drop (i + data.length)

section

variable (dongle : Dongle)

/-- The word loop of `mt76_efuse_read`. The counter `i` is a `uint8_t`: for
`len > 252` it wraps to 0 after 64 rounds and the loop never ends, which is the
result code `none`. -/
def efuseWords (addr len : UInt8) : Nat → UInt8 → List UInt8 → UsbLog →
    Option Int × List UInt8 × UsbLog
  | 0, i, out, log => (if i < len then none else some 0, out, log)
  | rounds + 1, i, out, log =>
      if i < len then
        let offset := (addr &&& 0x0c) + i
        let word := mt76CtrlRead dongle (mtEfuseDataBase + offset.toUInt16) mtVendMultiRead log
        let copy := if len.toNat - i.toNat < 4 then len.toNat - i.toNat else 4
        efuseWords addr len rounds (i + 4) (overwrite out i.toNat ((store32 word.1).take copy)) word.2
      else (some 0, out, log)

/-- The control word that selects a block: addressIn = block, mode = 0, kick = 1. -/
def efuseKick (ctrl : UInt32) (block : UInt8) : UInt32 :=
  (ctrl &&& ~~~(((0x3ff : UInt32) <<< 16) ||| ((3 : UInt32) <<< 6) ||| ((1 : UInt32) <<< 30))) |||
    ((block.toUInt32 <<< 16) ||| ((1 : UInt32) <<< 30))

/-- The first half of `mt76_efuse_read`: select the 16-byte block and kick the read. -/
def efuseSelect (addr : UInt8) (log : UsbLog) : UsbLog :=
  let block := addr &&& ~~~(0x0f : UInt8)
  let ctrl := mt76CtrlRead dongle mtEfuseCtrl mtVendMultiRead log
  mt76CtrlWrite dongle mtEfuseCtrl (efuseKick ctrl.1 block) mtVendMultiWrite ctrl.2

/-- `mt76_efuse_read`: the result code, the output array and the log. -/
def mt76EfuseRead (addr len : UInt8) (log : UsbLog) : Option Int × List UInt8 × UsbLog :=
  let out := List.replicate len.toNat 0xff
  let polled := mt76Poll (mt76PollEfuseKick dongle) (efuseSelect dongle addr log)
  if polled.1 ≠ 0 then (some (-1), out, polled.2)
  else efuseWords dongle addr len 64 0 out polled.2

end

/-! ## A read only makes control transfers -/

variable (dongle : Dongle)

section

variable {P : UsbIo → Prop} (hread : ∀ addr req val, P (.ctrlRead addr req val))
  (hkick : ∀ val ok, P (.ctrlWrite mtEfuseCtrl val mtVendMultiWrite ok))

include hread

theorem efuseWords_entries (addr len : UInt8) (rounds : Nat) (i : UInt8) (out : List UInt8)
    (log : UsbLog) : Emits P log (efuseWords dongle addr len rounds i out log).2.2 := by
  induction rounds generalizing i out log with
  | zero => exact Emits.refl log
  | succ rounds ih =>
      simp only [efuseWords]
      split
      · exact (Emits.one (hread _ _ _)).trans (ih _ _ _)
      · exact Emits.refl log

include hkick

/-- A read leaves control reads and a write that selects the block. -/
theorem mt76EfuseRead_entries (addr len : UInt8) (log : UsbLog) :
    Emits P log (mt76EfuseRead dongle addr len log).2.2 := by
  have hselect : Emits P log (efuseSelect dongle addr log) :=
    (Emits.one (hread _ _ _)).trans (Emits.one (hkick _ _))
  have hpoll (log : UsbLog) : Emits P log (mt76PollEfuseKick dongle log).2 :=
    Emits.one (hread _ _ _)
  have hpolled := hselect.trans (mt76Poll_emits hpoll _)
  simp only [mt76EfuseRead]
  split
  · exact hpolled
  · exact hpolled.trans (efuseWords_entries dongle hread _ _ _ _ _ _)

end

theorem efuseWords_emits (addr len : UInt8) (rounds : Nat) (i : UInt8) (out : List UInt8)
    (log : UsbLog) :
    Emits UsbIo.IsCtrl log (efuseWords dongle addr len rounds i out log).2.2 :=
  efuseWords_entries dongle (fun _ _ _ => trivial) addr len rounds i out log

theorem mt76PollEfuseKick_emits (log : UsbLog) :
    Emits UsbIo.IsCtrl log (mt76PollEfuseKick dongle log).2 :=
  mt76CtrlRead_emits dongle _ _ log

theorem efuseSelect_emits (addr : UInt8) (log : UsbLog) :
    Emits UsbIo.IsCtrl log (efuseSelect dongle addr log) :=
  (mt76CtrlRead_emits dongle _ _ log).trans (mt76CtrlWrite_emits dongle _ _ _ _)

theorem mt76EfuseRead_emits (addr len : UInt8) (log : UsbLog) :
    Emits UsbIo.IsCtrl log (mt76EfuseRead dongle addr len log).2.2 :=
  mt76EfuseRead_entries dongle (fun _ _ _ => trivial) (fun _ _ => trivial) addr len log

/-! ## Fuses -/

/-- The block addressed by the latest write to the EFUSE control register. -/
def efuseBlock? (log : UsbLog) : Option UInt8 :=
  log.findSome? fun
    | .ctrlWrite addr val _ _ =>
        if addr = mtEfuseCtrl then some ((val >>> 16) &&& 0x3ff).toUInt8 else none
    | _ => none

/-- The little-endian word of four consecutive fuse bytes. -/
def romWord (rom : Nat → UInt8) (addr : Nat) : UInt32 :=
  load32 [rom addr, rom (addr + 1), rom (addr + 2), rom (addr + 3)]

/-- After every history that satisfies `phase` EFUSE reads work: the kick bit clears
before the poll gives up and the four data registers hold the kicked block of `rom`. -/
structure Dongle.ReadsEfuse (rom : Nat → UInt8) (phase : UsbLog → Prop) : Prop where
  kick : ∀ log, phase log → (mt76Poll (mt76PollEfuseKick dongle) log).1 = 0
  data : ∀ log, phase log → ∀ block, efuseBlock? log = some block →
    ∀ word : Fin 4, dongle.ctrlRead log (mtEfuseDataBase + 4 * UInt16.ofNat word) mtVendMultiRead =
      some (romWord rom (block.toNat + 4 * word))

/-- After every history that satisfies `phase` EFUSE reads time out: `mt76EfuseRead` returns -1,
the only failure it reports. -/
def Dongle.FailsEfuse (phase : UsbLog → Prop) : Prop :=
  ∀ log, phase log → (mt76Poll (mt76PollEfuseKick dongle) log).1 ≠ 0

/-- After every history that satisfies `phase` the data registers cannot be read. That is not
reported: the read goes on with zeros. -/
structure Dongle.DropsEfuse (phase : UsbLog → Prop) : Prop where
  kick : ∀ log, phase log → (mt76Poll (mt76PollEfuseKick dongle) log).1 = 0
  data : ∀ log, phase log → ∀ word : Fin 4,
    dongle.ctrlRead log (mtEfuseDataBase + 4 * UInt16.ofNat word) mtVendMultiRead = none

/-- What becomes of the EFUSE reads of a phase. -/
inductive EfuseOutcome
  | works
  | timesOut
  | drops
  deriving DecidableEq

/-- The dongle has the fuses `rom`, and its reads in `phase` have this outcome. -/
def Dongle.MeetsEfuse (rom : Nat → UInt8) (phase : UsbLog → Prop) : EfuseOutcome → Prop
  | .works => dongle.ReadsEfuse rom phase
  | .timesOut => dongle.FailsEfuse phase
  | .drops => dongle.DropsEfuse phase

/-- A dongle with fuses `rom` that accepts every transfer. The upload's DMA length reads
back as a finished four-byte chunk; registers without a function here read 0. -/
def romDongle (rom : Nat → UInt8) : Dongle where
  ctrlRead log addr _ :=
    if addr = mtFceDmaLen then some 0xc0040000
    else if addr = mtAsicVersion then some 0x76120044
    else if addr ∈ [0x28, 0x2c, 0x30, 0x34] then
      some (romWord rom (((efuseBlock? log).getD 0).toNat + (addr.toNat - 0x28)))
    else some 0
  ctrlWrite _ _ _ _ := true
  bulkOut _ _ _ := .success

theorem romDongle_readsEfuse (rom : Nat → UInt8) (phase : UsbLog → Prop) :
    (romDongle rom).ReadsEfuse rom phase where
  kick := by
    intro log _
    have hdone : (mt76PollEfuseKick (romDongle rom) log).1 = false := by
      have hctrl : (romDongle rom).ctrlRead log mtEfuseCtrl mtVendMultiRead = some 0 := rfl
      simp only [mt76PollEfuseKick, mt76CtrlRead, hctrl, Option.getD_some]
      decide
    simp [mt76Poll, mt76PollLoop, hdone]
  data := by
    intro log _ block hblock word
    obtain ⟨word, hword⟩ := word
    simp only [romDongle, hblock, Option.getD_some]
    interval_cases word <;> rfl

/-- `len` fuse bytes from `addr` on. -/
def romBytes (rom : Nat → UInt8) (addr len : Nat) : List UInt8 :=
  (List.range len).map fun k => rom (addr + k)

theorem efuseKick_block (ctrl : UInt32) (block : UInt8) :
    ((efuseKick ctrl block >>> 16) &&& 0x3ff).toUInt8 = block := by
  have hfield : (efuseKick ctrl block >>> 16) &&& 0x3ff = block.toUInt32 := by
    apply UInt32.toBitVec_inj.mp
    apply BitVec.eq_of_getLsbD_eq
    intro i hi
    simp only [efuseKick, UInt32.toBitVec_and, UInt32.toBitVec_shiftRight, UInt32.toBitVec_or,
      UInt32.toBitVec_not, UInt32.toBitVec_shiftLeft]
    interval_cases i <;> simp
  rw [hfield]
  apply UInt8.toNat_inj.mp
  simp

theorem efuseSelect_block (addr : UInt8) (log : UsbLog) :
    efuseBlock? (efuseSelect dongle addr log) = some (addr &&& ~~~(0x0f : UInt8)) := by
  simp only [efuseBlock?, efuseSelect, mt76CtrlWrite, List.findSome?_cons, if_pos,
    efuseKick_block]

theorem mt76PollEfuseKick_block (log : UsbLog) :
    efuseBlock? (mt76Poll (mt76PollEfuseKick dongle) log).2 = efuseBlock? log := by
  suffices h : ∀ attempts log, efuseBlock? (mt76PollLoop (mt76PollEfuseKick dongle) attempts log).2
      = efuseBlock? log from h 200 log
  intro attempts
  induction attempts with
  | zero => exact fun _ => rfl
  | succ attempts ih =>
      intro log
      simp only [mt76PollLoop]
      split
      · exact ih _
      · rfl

theorem store32_romWord (rom : Nat → UInt8) (addr : Nat) :
    store32 (romWord rom addr) = [rom addr, rom (addr + 1), rom (addr + 2), rom (addr + 3)] := by
  have h0 := (rom addr).toNat_lt
  have h1 := (rom (addr + 1)).toNat_lt
  have h2 := (rom (addr + 2)).toNat_lt
  have h3 := (rom (addr + 3)).toNat_lt
  simp only [store32, romWord, load32, byteAt_cons_zero, byteAt_cons_succ]
  rw [UInt32.toNat_ofNat']
  refine List.cons_eq_cons.mpr ⟨?_, List.cons_eq_cons.mpr ⟨?_, List.cons_eq_cons.mpr ⟨?_,
    List.cons_eq_cons.mpr ⟨?_, rfl⟩⟩⟩⟩ <;>
  · apply UInt8.toNat_inj.mp
    rw [UInt8.toNat_ofNat']
    omega

theorem efuseColumn_toNat (addr : UInt8) :
    (addr &&& 0x0c).toNat = addr.toNat % 16 - addr.toNat % 4 := by
  have hmask : ∀ n : Fin 256, n.val &&& 0x0c = n.val % 16 - n.val % 4 := by decide +kernel
  rw [UInt8.toNat_and]
  exact hmask ⟨addr.toNat, addr.toNat_lt⟩

theorem efuseBlock_toNat (addr : UInt8) :
    (addr &&& ~~~(0x0f : UInt8)).toNat = addr.toNat - addr.toNat % 16 := by
  have hmask : ∀ n : Fin 256, n.val &&& 0xf0 = n.val - n.val % 16 := by decide +kernel
  rw [UInt8.toNat_and]
  exact hmask ⟨addr.toNat, addr.toNat_lt⟩

theorem romBytes_add (rom : Nat → UInt8) (base addr len : Nat) :
    romBytes (fun k => rom (base + k)) addr len = romBytes rom (base + addr) len :=
  List.map_congr_left fun k _ => congrArg rom (Nat.add_assoc base addr k).symm

theorem romBytes_take_add (rom : Nat → UInt8) (addr len i n : Nat) (hfit : i + n ≤ len) :
    (romBytes rom addr len).take (i + n) =
      (romBytes rom addr len).take i ++ romBytes rom (addr + i) n := by
  apply List.ext_getElem
  · simp [romBytes]
    omega
  · intro k hleft hright
    simp only [romBytes, List.length_take, List.length_map, List.length_range] at hleft
    by_cases hk : k < i
    · rw [List.getElem_append_left (by simp [romBytes]; omega)]
      simp [romBytes]
    · rw [List.getElem_append_right (by simp [romBytes]; omega)]
      simp only [romBytes, List.getElem_take, List.getElem_map, List.getElem_range,
        List.length_take, List.length_map, List.length_range]
      congr 1
      omega

theorem length_overwrite {out data : List UInt8} {i : Nat} (hfit : i + data.length ≤ out.length) :
    (overwrite out i data).length = out.length := by
  simp [overwrite]
  omega

theorem overwrite_take {out data : List UInt8} {i : Nat} (hfit : i + data.length ≤ out.length) :
    (overwrite out i data).take (i + data.length) = out.take i ++ data := by
  have hlength : (out.take i ++ data).length = i + data.length := by
    simp
    omega
  rw [overwrite, List.take_append_of_le_length (by omega), List.take_of_length_le (by omega)]

theorem counter_toNat {k : Nat} (hk : 4 * k < 256) : (UInt8.ofNat (4 * k)).toNat = 4 * k := by
  rw [UInt8.toNat_ofNat']
  omega

/-- Once the prefix that is right covers the array, the array is right. -/
theorem eq_romBytes_of_take {rom : Nat → UInt8} {addr len i : Nat} {out : List UInt8}
    (hlength : out.length = len) (hstarts : out.take i = (romBytes rom addr len).take i)
    (hle : len ≤ i) : out = romBytes rom addr len := by
  have hrom : (romBytes rom addr len).length = len := by simp [romBytes]
  rwa [List.take_of_length_le (by omega), List.take_of_length_le (by omega)] at hstarts

theorem counter_next {k : Nat} (hk : 4 * k < 256) :
    UInt8.ofNat (4 * k) + 4 = UInt8.ofNat (4 * (k + 1)) := by
  apply UInt8.toNat_inj.mp
  simp only [UInt8.toNat_add, counter_toNat hk, UInt8.toNat_ofNat', UInt8.reduceToNat]
  omega

/-- The register of the `k`-th word of a read. -/
theorem word_address (addr : UInt8) {k : Nat} (hword : (addr &&& 0x0c).toNat + 4 * k < 256) :
    mtEfuseDataBase + ((addr &&& 0x0c) + UInt8.ofNat (4 * k)).toUInt16 =
      mtEfuseDataBase + 4 * UInt16.ofNat ((addr &&& 0x0c).toNat / 4 + k) := by
  have hcol := efuseColumn_toNat addr
  congr 1
  apply UInt16.toNat_inj.mp
  simp only [UInt8.toNat_toUInt16, UInt8.toNat_add, counter_toNat (by omega : 4 * k < 256),
    UInt16.toNat_mul, UInt16.toNat_ofNat', UInt16.reduceToNat]
  omega

theorem take_word (rom : Nat → UInt8) (addr : Nat) {n : Nat} (hn : n ≤ 4) :
    [rom addr, rom (addr + 1), rom (addr + 2), rom (addr + 3)].take n = romBytes rom addr n := by
  interval_cases n <;> rfl

/-- The next bytes are written behind those that are right. -/
theorem overwrite_romBytes {rom : Nat → UInt8} {addr len i n : Nat} {out : List UInt8}
    (hlength : out.length = len) (hstarts : out.take i = (romBytes rom addr len).take i)
    (hroom : i + n ≤ len) :
    (overwrite out i (romBytes rom (addr + i) n)).take (i + n) =
      (romBytes rom addr len).take (i + n) := by
  have hcount : (romBytes rom (addr + i) n).length = n := by simp [romBytes]
  have hfit : i + (romBytes rom (addr + i) n).length ≤ out.length := by omega
  have htake := overwrite_take hfit
  rw [hcount] at htake
  rw [htake, romBytes_take_add _ _ _ _ _ hroom, hstarts]

/-- The word loop invariant: the first `4 * k` bytes are already right. `cells` is what the
registers hold from the first data register on. -/
theorem efuseWords_cells {cells : Nat → UInt8} {addr len : UInt8} (hlen : len.toNat ≤ 252)
    (hfit : (addr &&& 0x0c).toNat + len.toNat ≤ 256) (rounds k : Nat) (out : List UInt8)
    (log : UsbLog) {block : Option UInt8} (hblock : efuseBlock? log = block)
    (hlength : out.length = len.toNat)
    (hstarts : out.take (4 * k) = (romBytes cells (addr &&& 0x0c).toNat len.toNat).take (4 * k))
    (hk : 4 * k < len.toNat + 4) (hrounds : len.toNat ≤ 4 * (k + rounds))
    {result : Option Int × List UInt8 × UsbLog}
    (hresult : efuseWords dongle addr len rounds (UInt8.ofNat (4 * k)) out log = result)
    (hcells : ∀ middle, log <:+ middle → middle <:+ result.2.2 → efuseBlock? middle = block →
      ∀ n, 4 * n < (addr &&& 0x0c).toNat + len.toNat →
        (dongle.ctrlRead middle (mtEfuseDataBase + 4 * UInt16.ofNat n) mtVendMultiRead).getD 0 =
          romWord cells (4 * n)) :
    result.1 = some 0 ∧ result.2.1 = romBytes cells (addr &&& 0x0c).toNat len.toNat := by
  induction rounds generalizing k out log with
  | zero =>
      have hi := counter_toNat (k := k) (by omega)
      rw [efuseWords, if_neg (by rw [UInt8.lt_iff_toNat_lt, hi]; omega)] at hresult
      subst hresult
      exact ⟨rfl, eq_romBytes_of_take hlength hstarts (by omega)⟩
  | succ rounds ih =>
      have hi := counter_toNat (k := k) (by omega)
      rw [efuseWords] at hresult
      split at hresult
      case isFalse hge =>
        subst hresult
        rw [UInt8.lt_iff_toNat_lt, hi] at hge
        exact ⟨rfl, eq_romBytes_of_take hlength hstarts (by omega)⟩
      case isTrue hmore =>
        rw [UInt8.lt_iff_toNat_lt, hi] at hmore
        have hsuffix : log <:+ result.2.2 := by
          rw [← hresult]
          exact ((mt76CtrlRead_emits dongle _ _ log).trans
            (efuseWords_emits dongle _ _ _ _ _ _)).suffix
        have hcol := efuseColumn_toNat addr
        have hread := hcells log List.suffix_rfl hsuffix hblock ((addr &&& 0x0c).toNat / 4 + k)
          (by omega)
        -- word `k` of the read is that many data registers behind the column of the address
        have hwhere : 4 * ((addr &&& 0x0c).toNat / 4 + k) = (addr &&& 0x0c).toNat + 4 * k := by
          omega
        rw [hwhere] at hread
        have haddress := word_address addr (k := k) (by omega)
        simp only [mt76CtrlRead, haddress, hread, store32_romWord, hi] at hresult
        generalize hn : (if len.toNat - 4 * k < 4 then len.toNat - 4 * k else 4) = n at hresult
        have hroom : 4 * k + n ≤ len.toNat := by split at hn <;> omega
        rw [take_word cells _ (by split at hn <;> omega), counter_next (by omega)] at hresult
        have hnew := overwrite_romBytes hlength hstarts hroom
        have hlong : (overwrite out (4 * k)
            (romBytes cells ((addr &&& 0x0c).toNat + 4 * k) n)).length = len.toNat := by
          rw [length_overwrite (by simp [romBytes]; omega), hlength]
        refine ih (k + 1) _ (.ctrlRead _ _ _ :: log) hblock hlong ?_ (by omega) (by omega) hresult
          (fun middle hmiddle => hcells middle ((List.suffix_cons _ _).trans hmiddle))
        by_cases hfull : n = 4
        · subst hfull
          exact hnew
        · -- a short last word ends the array
          have hend : len.toNat ≤ 4 * k + n := by split at hn <;> omega
          rw [eq_romBytes_of_take hlong hnew hend]

/-- A read copies what the registers hold from its column on, whatever block they belong to. -/
theorem mt76EfuseRead_cells (cells : Nat → UInt8) {addr len : UInt8} (hlen : len.toNat ≤ 252)
    (hfit : (addr &&& 0x0c).toNat + len.toNat ≤ 256) (log : UsbLog)
    (hkick : ∀ kicked, log <:+ kicked → kicked <:+ (mt76EfuseRead dongle addr len log).2.2 →
      (mt76Poll (mt76PollEfuseKick dongle) kicked).1 = 0)
    (hcells : ∀ middle, log <:+ middle → middle <:+ (mt76EfuseRead dongle addr len log).2.2 →
      efuseBlock? middle = some (addr &&& ~~~(0x0f : UInt8)) →
      ∀ n, 4 * n < (addr &&& 0x0c).toNat + len.toNat →
        (dongle.ctrlRead middle (mtEfuseDataBase + 4 * UInt16.ofNat n) mtVendMultiRead).getD 0 =
          romWord cells (4 * n)) :
    (mt76EfuseRead dongle addr len log).1 = some 0 ∧
      (mt76EfuseRead dongle addr len log).2.1 = romBytes cells (addr &&& 0x0c).toNat len.toNat := by
  generalize hresult : mt76EfuseRead dongle addr len log = result at hkick hcells ⊢
  simp only [mt76EfuseRead] at hresult
  have hselected := efuseSelect_emits dongle addr log
  have hblock := efuseSelect_block dongle addr log
  generalize efuseSelect dongle addr log = kicked at hresult hselected hblock
  have hpolled := mt76Poll_emits (mt76PollEfuseKick_emits dongle) kicked
  rw [← mt76PollEfuseKick_block dongle kicked] at hblock
  split at hresult
  case isTrue htimeout =>
    subst hresult
    exact absurd (hkick kicked hselected.suffix hpolled.suffix) htimeout
  case isFalse hdone =>
    exact efuseWords_cells dongle hlen hfit 64 0 _ _ hblock (by simp) (by simp)
      (by omega) (by omega) hresult
      fun middle hmiddle => hcells middle ((hselected.trans hpolled).suffix.trans hmiddle)

/-- A read inside one block of a working EFUSE copies the block from its column on. -/
theorem mt76EfuseRead_block {rom : Nat → UInt8} {phase : UsbLog → Prop}
    (hrom : dongle.ReadsEfuse rom phase) {addr len : UInt8}
    (hfit : (addr &&& 0x0c).toNat + len.toNat ≤ 16) {log : UsbLog}
    (hphase : ∀ middle, log <:+ middle →
      middle <:+ (mt76EfuseRead dongle addr len log).2.2 → phase middle) :
    (mt76EfuseRead dongle addr len log).1 = some 0 ∧
      (mt76EfuseRead dongle addr len log).2.1 =
        romBytes rom (addr.toNat - addr.toNat % 4) len.toNat := by
  have hcol := efuseColumn_toNat addr
  have hbase := efuseBlock_toNat addr
  have hread := mt76EfuseRead_cells dongle
    (fun k => rom ((addr &&& ~~~(0x0f : UInt8)).toNat + k)) (by omega) (by omega) log
    (fun kicked hkicked hend => hrom.kick kicked (hphase kicked hkicked hend))
    fun middle hmiddle hend hblock n hn => by
      rw [hrom.data middle (hphase middle hmiddle hend) _ hblock ⟨n, by omega⟩]
      rfl
  rw [romBytes_add] at hread
  have hwhere : (addr &&& ~~~(0x0f : UInt8)).toNat + (addr &&& 0x0c).toNat =
      addr.toNat - addr.toNat % 4 := by omega
  rwa [hwhere] at hread

/-- A read inside one block of a working EFUSE returns its bytes. -/
theorem mt76EfuseRead_rom {rom : Nat → UInt8} {phase : UsbLog → Prop}
    (hrom : dongle.ReadsEfuse rom phase) {addr len : UInt8} (haligned : addr.toNat % 4 = 0)
    (hfit : addr.toNat % 16 + len.toNat ≤ 16) {log : UsbLog}
    (hphase : ∀ middle, log <:+ middle →
      middle <:+ (mt76EfuseRead dongle addr len log).2.2 → phase middle) :
    (mt76EfuseRead dongle addr len log).1 = some 0 ∧
      (mt76EfuseRead dongle addr len log).2.1 = romBytes rom addr.toNat len.toNat := by
  have hcol := efuseColumn_toNat addr
  have hread := mt76EfuseRead_block dongle hrom (by omega) hphase
  rwa [haligned, Nat.sub_zero] at hread

/-- A read whose kick bit never clears reports failure and leaves the array as it was filled. -/
theorem mt76EfuseRead_timeout {addr len : UInt8} {log : UsbLog}
    (htimeout : ∀ kicked, log <:+ kicked →
      kicked <:+ (mt76EfuseRead dongle addr len log).2.2 →
      (mt76Poll (mt76PollEfuseKick dongle) kicked).1 ≠ 0) :
    (mt76EfuseRead dongle addr len log).1 = some (-1) ∧
      (mt76EfuseRead dongle addr len log).2.1 = List.replicate len.toNat 0xff := by
  generalize hresult : mt76EfuseRead dongle addr len log = result at htimeout ⊢
  simp only [mt76EfuseRead] at hresult
  have hselected := efuseSelect_emits dongle addr log
  generalize efuseSelect dongle addr log = kicked at hresult hselected
  have hpolled := mt76Poll_emits (mt76PollEfuseKick_emits dongle) kicked
  split at hresult
  case isTrue =>
    subst hresult
    exact ⟨rfl, rfl⟩
  case isFalse hdone =>
    refine absurd (htimeout kicked hselected.suffix ?_) hdone
    rw [← hresult]
    exact (hpolled.trans (efuseWords_emits dongle _ _ _ _ _ _)).suffix

/-- A read without an answer returns zeros. -/
theorem mt76EfuseRead_drops {phase : UsbLog → Prop} (hdrops : dongle.DropsEfuse phase)
    {addr len : UInt8} (hfit : (addr &&& 0x0c).toNat + len.toNat ≤ 16) {log : UsbLog}
    (hphase : ∀ middle, log <:+ middle →
      middle <:+ (mt76EfuseRead dongle addr len log).2.2 → phase middle) :
    (mt76EfuseRead dongle addr len log).1 = some 0 ∧
      (mt76EfuseRead dongle addr len log).2.1 = List.replicate len.toNat 0x00 := by
  have hzeros : romBytes (fun _ => 0x00) (addr &&& 0x0c).toNat len.toNat =
      List.replicate len.toNat 0x00 := by
    rw [romBytes, List.map_const', List.length_range]
  rw [← hzeros]
  exact mt76EfuseRead_cells dongle (fun _ => 0x00) (by omega) (by omega) log
    (fun kicked hkicked hend => hdrops.kick kicked (hphase kicked hkicked hend))
    fun middle hmiddle hend _ n hn => by
      rw [hdrops.data middle (hphase middle hmiddle hend) ⟨n, by omega⟩]
      rfl

/-! ## Reads of more than a block -/

/-- Every register access succeeds, and EFUSE reads work. -/
structure Dongle.Cooperates (rom : Nat → UInt8) : Prop where
  answers : ∀ log addr req, (dongle.ctrlRead log addr req).isSome
  accepts : ∀ log addr val req, dongle.ctrlWrite log addr val req = true
  fuses : dongle.ReadsEfuse rom fun _ => True

theorem romDongle_cooperates (rom : Nat → UInt8) : (romDongle rom).Cooperates rom where
  answers log addr req := by
    simp only [romDongle]
    split_ifs <;> rfl
  accepts _ _ _ _ := rfl
  fuses := romDongle_readsEfuse rom fun _ => True

/-- The read returns what was asked for, from whatever dongle does its part. -/
def EfuseReturns (addr len : UInt8) : Prop :=
  ∀ (dongle : Dongle) (rom : Nat → UInt8), dongle.Cooperates rom → ∀ log,
    (mt76EfuseRead dongle addr len log).1 = some 0 ∧
      (mt76EfuseRead dongle addr len log).2.1 = romBytes rom addr.toNat len.toNat

/-- Beyond 252 bytes the counter is never past the end, however often the loop goes round. -/
theorem efuseWords_endless {len : UInt8} (hlen : 252 < len.toNat) (addr : UInt8) (rounds : Nat)
    {i : UInt8} (hi : i.toNat % 4 = 0) (out : List UInt8) (log : UsbLog) :
    (efuseWords dongle addr len rounds i out log).1 = none := by
  have hmore : i < len := by
    have := i.toNat_lt
    rw [UInt8.lt_iff_toNat_lt]
    omega
  induction rounds generalizing i out log with
  | zero => rw [efuseWords, if_pos hmore]
  | succ rounds ih =>
      have hnext : (i + 4).toNat % 4 = 0 := by
        have hadd : (i + 4).toNat = (i.toNat + 4) % 256 := UInt8.toNat_add i 4
        omega
      have hmore' : i + 4 < len := by
        have := (i + 4).toNat_lt
        rw [UInt8.lt_iff_toNat_lt]
        omega
      rw [efuseWords, if_pos hmore]
      exact ih hnext _ _ hmore'

theorem mt76EfuseRead_endless {len : UInt8} (hlen : 252 < len.toNat) (addr : UInt8) (log : UsbLog) :
    (mt76EfuseRead dongle addr len log).1 ≠ some 0 := by
  simp only [mt76EfuseRead]
  split
  · simp
  · rw [efuseWords_endless dongle hlen addr 64 rfl]
    simp

/-- The registers behind the data registers of `romDongle` read 0. -/
theorem romDongle_cells (log : UsbLog) {n : Nat} (hn : 4 * n < 256) :
    (romDongle fun _ => 1).ctrlRead log (mtEfuseDataBase + 4 * UInt16.ofNat n) mtVendMultiRead =
      some (romWord (fun k => if k < 16 then 1 else 0) (4 * n)) := by
  have hregister : (mtEfuseDataBase + 4 * UInt16.ofNat n).toNat = 0x28 + 4 * n := by
    have hbase : mtEfuseDataBase.toNat = 0x28 := rfl
    simp only [UInt16.toNat_add, hbase, UInt16.toNat_mul, UInt16.toNat_ofNat', UInt16.reduceToNat]
    omega
  have hne {addr : UInt16} (a : Nat) (haddr : addr.toNat = a) (hother : a ≠ 0x28 + 4 * n) :
      mtEfuseDataBase + 4 * UInt16.ofNat n ≠ addr := by
    rintro rfl
    exact hother (haddr.symm.trans hregister)
  by_cases hdata : n < 4
  · interval_cases n <;> rfl
  · have hbehind : romWord (fun k => if k < 16 then 1 else 0) (4 * n) = 0 := by
      simp only [romWord, if_neg (by omega : ¬4 * n < 16), if_neg (by omega : ¬4 * n + 1 < 16),
        if_neg (by omega : ¬4 * n + 2 < 16), if_neg (by omega : ¬4 * n + 3 < 16)]
      rfl
    have hnot : mtEfuseDataBase + 4 * UInt16.ofNat n ∉ ([0x28, 0x2c, 0x30, 0x34] : List UInt16) := by
      simp only [List.mem_cons, List.not_mem_nil, or_false, not_or]
      exact ⟨hne 0x28 rfl (by omega), hne 0x2c rfl (by omega), hne 0x30 rfl (by omega),
        hne 0x34 rfl (by omega)⟩
    simp only [romDongle]
    rw [if_neg (hne 0x234 rfl (by omega)), if_neg (hne 0 rfl (by omega)), if_neg hnot, hbehind]

/-- The read is right just if it stays inside one block. -/
theorem efuseReturns_iff {addr len : UInt8} (haligned : addr.toNat % 4 = 0)
    (hfit : addr.toNat + len.toNat ≤ 256) :
    EfuseReturns addr len ↔ addr.toNat % 16 + len.toNat ≤ 16 := by
  constructor
  · intro hreads
    by_contra hover
    have hread := hreads (romDongle fun _ => 1) (fun _ => 1) (romDongle_cooperates _) []
    by_cases hlen : len.toNat ≤ 252
    · have hcol := efuseColumn_toNat addr
      have hkick := (romDongle_cooperates fun _ => 1).fuses.kick
      have hwithin : (addr &&& 0x0c).toNat + len.toNat ≤ 256 := by omega
      have hcells := mt76EfuseRead_cells (romDongle fun _ => 1) (fun k => if k < 16 then 1 else 0)
        hlen hwithin [] (fun kicked _ _ => hkick kicked trivial)
        fun middle _ _ _ n hn => by
          rw [romDongle_cells middle (by omega)]
          rfl
      -- the first byte behind the block
      have hbytes := hcells.2.symm.trans hread.2
      have hbyte := congrArg (fun bytes => bytes[16 - addr.toNat % 16]?) hbytes
      simp only [romBytes, List.getElem?_map] at hbyte
      rw [List.getElem?_range (by omega)] at hbyte
      simp only [Option.map_some] at hbyte
      rw [if_neg (by omega)] at hbyte
      revert hbyte
      decide
    · exact mt76EfuseRead_endless _ (by omega) addr [] hread.1
  · intro hinside dongle rom hcooperates log
    exact mt76EfuseRead_rom dongle hcooperates.fuses haligned hinside fun _ _ _ => trivial

theorem efuseReturns_iff_mac :
    EfuseReturns 0x04 6 ↔ (0x04 : UInt8).toNat % 16 + (6 : UInt8).toNat ≤ 16 :=
  efuseReturns_iff (by decide) (by decide)

/-- A read over the end of a block returns the registers that follow, and one of 253 bytes does
not return. -/
theorem efuse_over_block :
    (mt76EfuseRead (romDongle fun _ => 1) 0x0c 8 []).2.1 = [1, 1, 1, 1, 0, 0, 0, 0] ∧
      ¬EfuseReturns 0x0c 8 ∧ (mt76EfuseRead (romDongle fun _ => 1) 0x00 253 []).1 = none := by
  have hread : (mt76EfuseRead (romDongle fun _ => 1) 0x0c 8 []).2.1 = [1, 1, 1, 1, 0, 0, 0, 0] := by
    decide +kernel
  refine ⟨hread, fun hreads => ?_, by decide +kernel⟩
  have hbytes := (hreads _ _ (romDongle_cooperates fun _ => 1) []).2
  rw [hread] at hbytes
  revert hbytes
  decide +kernel

end XoneDarwin
