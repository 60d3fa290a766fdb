import XoneDarwin.Mt76.Radio

/-!
# The address step

`mt76_radio_init` reads the adapter's address from EFUSE and programs it. A read that times
out is reported, and the fallback address is used. A transfer that fails is not: what it
should have read counts as 0, and a kick bit of 0 as a finished read. A failed write of an
address register is only printed.
-/

namespace XoneDarwin

open Machine (Emits)

/-! ## The step and what is asked of it -/

/-- Controllers connect to 62:45:bX and whatever follows. -/
def Mac.InFamily (mac : Mac) : Prop :=
  mac.b0 = 0x62 ∧ mac.b1 = 0x45 ∧ mac.b2 &&& 0xf0 = 0xb0

instance (mac : Mac) : Decidable mac.InFamily :=
  inferInstanceAs (Decidable (_ ∧ _))

/-- A control transfer that did not go through. -/
def UsbIo.Failed : UsbIo → Prop
  | .ctrlRead _ _ val => val = none
  | .ctrlWrite _ _ _ ok => ok = false
  | .bulkOut .. => False

theorem UsbIo.not_failed_ctrlRead {addr : UInt16} {req : UInt8} {val : Option UInt32} :
    ¬UsbIo.Failed (.ctrlRead addr req val) ↔ val.isSome = true := by
  cases val <;> simp [UsbIo.Failed]

theorem UsbIo.not_failed_ctrlWrite {addr : UInt16} {val : UInt32} {req : UInt8} {ok : Bool} :
    ¬UsbIo.Failed (.ctrlWrite addr val req ok) ↔ ok = true := by
  cases ok <;> simp [UsbIo.Failed]

/-- The first bytes that a register holds. -/
def registerBytes? (addr : UInt16) (count : Nat) (log : UsbLog) : Option (List UInt8) :=
  (register log addr).map fun val => (store32 val).take count

/-- The address in a pair of registers, four bytes in the first and two in the second. -/
def programmedMac (dw0 dw1 : UInt16) (log : UsbLog) : Option Mac := do
  let low ← registerBytes? dw0 4 log
  let high ← registerBytes? dw1 2 log
  some (Mac.load (low ++ high))

section

variable (dongle : Dongle)

/-- Step 5 of `mt76_radio_init`. -/
def addressStep (log : UsbLog) : Mac × UsbLog :=
  let mac := radioMac dongle log
  (mac.1, mt76WriteMacHw dongle mac.1 mac.2)

/-- The read of the address times out or one of its transfers fails. -/
def EfuseAccessFails (log : UsbLog) : Prop :=
  (mt76EfuseRead dongle mtEeMacAddr 6 log).1 ≠ some 0 ∨
    ∃ fresh, (mt76EfuseRead dongle mtEeMacAddr 6 log).2.2 = fresh ++ log ∧ ∃ io ∈ fresh, io.Failed

/-- With the fuses `rom`, the step ends with an address that controllers accept. -/
structure AddressUsable (rom : Nat → UInt8) (log : UsbLog) : Prop where
  programmed :
    programmedMac mtMacAddrDw0 mtMacAddrDw1 (addressStep dongle log).2 =
        some (addressStep dongle log).1 ∧
      programmedMac mtMacBssidDw0 mtMacBssidDw1 (addressStep dongle log).2 =
        some (addressStep dongle log).1
  family : (addressStep dongle log).1.InFamily
  fallback : EfuseAccessFails dongle log → (addressStep dongle log).1 = fallbackMac
  fuses : ¬EfuseAccessFails dongle log → (addressStep dongle log).1.b3 = rom 7 ∧
    (addressStep dongle log).1.b4 = rom 8 ∧ (addressStep dongle log).1.b5 = rom 9

/-- What `mt76_radio_init` returns is the address of its fifth step. -/
theorem mt76RadioInit_address {log final : UsbLog} {mac : Mac}
    (hinit : mt76RadioInit dongle log = (some mac, final)) :
    mac = (addressStep dongle (radioBringUp dongle (mt76R dongle mtAsicVersion log).2)).1 := by
  simp only [mt76RadioInit] at hinit
  split at hinit
  · cases hinit
  split at hinit
  · cases hinit
  split at hinit
  · cases hinit
  split at hinit
  · cases hinit
  · exact (Option.some.inj (congrArg Prod.fst hinit)).symm

/-! ## Fuses and answers -/

/-- The block that the latest write to the EFUSE control register has kicked. -/
def kickedBlock? (log : UsbLog) : Option UInt8 :=
  (log.findSome? fun
    | .ctrlWrite addr val _ ok =>
        if addr = mtEfuseCtrl then some (if ok then some ((val >>> 16) &&& 0x3ff).toUInt8 else none)
        else none
    | _ => none).join

/-- The block in the data registers: it was kicked, and since then the kick bit was read as 0. -/
def loadedBlock? : UsbLog → Option UInt8
  | [] => none
  | .ctrlWrite addr _ _ _ :: older => if addr = mtEfuseCtrl then none else loadedBlock? older
  | .ctrlRead addr _ (some val) :: older =>
      if addr = mtEfuseCtrl ∧ (val >>> 30) &&& 1 = 0 then kickedBlock? older
      else loadedBlock? older
  | _ :: older => loadedBlock? older

/-- The dongle has the fuses `rom`: what can be read of a loaded block is in them. -/
def Dongle.HoldsFuses (rom : Nat → UInt8) : Prop :=
  ∀ log block, loadedBlock? log = some block → ∀ (word : Fin 4) (val : UInt32),
    dongle.ctrlRead log (mtEfuseDataBase + 4 * UInt16.ofNat word) mtVendMultiRead = some val →
    val = romWord rom (block.toNat + 4 * word)

variable (log : UsbLog)

/-- The history after the kick and `k` polls. -/
def polledLog : Nat → UsbLog
  | 0 => efuseSelect dongle mtEeMacAddr log
  | k + 1 => (mt76PollEfuseKick dongle (polledLog k)).2

/-- The dongle's answer to a poll. -/
def pollAnswer (k : Nat) : Option UInt32 :=
  dongle.ctrlRead (polledLog dongle log k) mtEfuseCtrl mtVendMultiRead

/-- The kick bit as the driver sees it. -/
def kickSeen (answer : Option UInt32) : Bool :=
  (answer.getD 0 >>> 30) &&& 1 != 0

/-- The dongle's answers for the two words of the address, after the poll `k`. -/
def firstWord (k : Nat) : Option UInt32 :=
  dongle.ctrlRead (polledLog dongle log (k + 1)) (mtEfuseDataBase + 4) mtVendMultiRead

def secondWord (k : Nat) : Option UInt32 :=
  dongle.ctrlRead
    (.ctrlRead (mtEfuseDataBase + 4) mtVendMultiRead (firstWord dongle log k) ::
      polledLog dongle log (k + 1))
    (mtEfuseDataBase + 8) mtVendMultiRead

/-- The kick bit is read as 1 until the driver gives up. -/
def StaysKicked : Prop :=
  ∀ k < 200, kickSeen (pollAnswer dongle log k) = true

/-- The poll `k` is the first at which the kick bit is not seen. -/
structure LastPoll (k : Nat) : Prop where
  lt : k < 200
  before : ∀ j < k, kickSeen (pollAnswer dongle log j) = true
  clear : kickSeen (pollAnswer dongle log k) = false

/-- All transfers of a read with the last poll `k` go through. -/
structure AllAnswered (k : Nat) : Prop where
  control : (dongle.ctrlRead log mtEfuseCtrl mtVendMultiRead).isSome = true
  kick : dongle.ctrlWrite (mt76CtrlRead dongle mtEfuseCtrl mtVendMultiRead log).2 mtEfuseCtrl
    (efuseKick (mt76CtrlRead dongle mtEfuseCtrl mtVendMultiRead log).1 0x00) mtVendMultiWrite = true
  poll : (pollAnswer dongle log k).isSome = true
  first : (firstWord dongle log k).isSome = true
  second : (secondWord dongle log k).isSome = true

end

/-- Fuses whose address the prefix rule leaves, or puts, in the family. -/
def PrefixUsable (rom : Nat → UInt8) : Prop :=
  rom 4 = 0x62 → rom 5 = 0x45 ∧ rom 6 &&& 0xf0 = 0xb0

/-- The bytes spell the fallback address, up to a prefix that is corrected. -/
def SpellsFallback (mac : Mac) : Prop :=
  (mac.b0 = 0x62 → mac.b1 = 0x45 ∧ mac.b2 = 0xbd) ∧ mac.b3 = 0x01 ∧ mac.b4 = 0x02 ∧ mac.b5 = 0x03

/-- What two answers are taken for, failed reads for 0. -/
def answeredMac (first second : Option UInt32) : Mac :=
  Mac.load (store32 (first.getD 0) ++ store32 (second.getD 0))

/-- The address in the fuses. -/
def romMac (rom : Nat → UInt8) : Mac :=
  ⟨rom 4, rom 5, rom 6, rom 7, rom 8, rom 9⟩

/-- The answers that the driver can deal with, and the address it goes on with. -/
inductive ReadsUsable (dongle : Dongle) (rom : Nat → UInt8) (log : UsbLog) : Mac → Prop
  /-- The kick bit stays set. -/
  | timeout (hbusy : StaysKicked dongle log) : ReadsUsable dongle rom log fallbackMac
  /-- Nothing fails, and the fuses have no foreign prefix behind 62. -/
  | fuses {k : Nat} (hlast : LastPoll dongle log k) (hall : AllAnswered dongle log k)
      (hown : PrefixUsable rom) : ReadsUsable dongle rom log (correctPrefix (romMac rom))
  /-- What is read in spite of a failure happens to be the fallback address. -/
  | spelled {k : Nat} (hlast : LastPoll dongle log k) (hnot : ¬AllAnswered dongle log k)
      (hspells : SpellsFallback (answeredMac (firstWord dongle log k) (secondWord dongle log k))) :
      ReadsUsable dongle rom log fallbackMac

/-- The writes of `mt76_write_mac_hw`, and how many bytes of the address each carries. -/
def macWrites (mac : Mac) : List (UInt16 × UInt32 × Nat) :=
  let dw0 := load32 mac.bytes
  let dw1 := (load16 (mac.bytes.drop 4)).toUInt32
  [(mtMacAddrDw0, dw0, 4), (mtMacAddrDw1, dw1, 2), (mtMacBssidDw0, dw0, 4),
    (mtMacBssidDw1, dw1, 2)]

/-- Each of the writes goes through, or its register holds those bytes from an earlier write. -/
def WritesUsable (dongle : Dongle) : List (UInt16 × UInt32 × Nat) → UsbLog → Prop
  | [], _ => True
  | (addr, val, count) :: rest, log =>
      (dongle.ctrlWrite log addr val mtVendMultiWrite = true ∨
        registerBytes? addr count log = some ((store32 val).take count)) ∧
      WritesUsable dongle rest (mt76W dongle addr val log)

/-- The reads lead to an address that controllers accept, and the writes that follow them put it
into the registers. -/
def TransfersUsable (dongle : Dongle) (rom : Nat → UInt8) (log : UsbLog) : Prop :=
  ∃ mac, ReadsUsable dongle rom log mac ∧
    WritesUsable dongle (macWrites mac) (mt76EfuseRead dongle mtEeMacAddr 6 log).2.2

/-! ## The prefix rule -/

theorem correctPrefix_family (mac : Mac) : (correctPrefix mac).InFamily ↔
    (mac.b0 = 0x62 → mac.b1 = 0x45 ∧ mac.b2 &&& 0xf0 = 0xb0) := by
  unfold correctPrefix Mac.InFamily
  split
  next hforeign =>
    have hfamily : (0xbd : UInt8) &&& 0xf0 = 0xb0 := by decide
    exact iff_of_true ⟨rfl, rfl, hfamily⟩ fun hown => absurd hown hforeign
  next hown =>
    rw [ne_eq, not_not] at hown
    simp only [hown, true_and, forall_const]

theorem correctPrefix_rest (mac : Mac) : (correctPrefix mac).b3 = mac.b3 ∧
    (correctPrefix mac).b4 = mac.b4 ∧ (correctPrefix mac).b5 = mac.b5 := by
  unfold correctPrefix
  split <;> exact ⟨rfl, rfl, rfl⟩

theorem correctPrefix_fallback (mac : Mac) :
    correctPrefix mac = fallbackMac ↔ SpellsFallback mac := by
  obtain ⟨b0, b1, b2, b3, b4, b5⟩ := mac
  unfold correctPrefix SpellsFallback fallbackMac
  split
  next hforeign => simp only [Mac.mk.injEq, true_and, hforeign, false_implies]
  next hown =>
    simp only [ne_eq, not_not] at hown
    simp only [Mac.mk.injEq, hown, true_and, forall_const, and_assoc]

/-! ## Polls -/

section

variable {dongle : Dongle} {log : UsbLog}

theorem pollLoop_step (n k : Nat) :
    mt76PollLoop (mt76PollEfuseKick dongle) (n + 1) (polledLog dongle log k) =
      if kickSeen (pollAnswer dongle log k) then
        mt76PollLoop (mt76PollEfuseKick dongle) n (polledLog dongle log (k + 1))
      else (0, polledLog dongle log (k + 1)) := rfl

theorem pollLoop_busy {n k : Nat}
    (hbusy : ∀ j, k ≤ j → j < k + n → kickSeen (pollAnswer dongle log j) = true) :
    mt76PollLoop (mt76PollEfuseKick dongle) n (polledLog dongle log k) =
      (-1, polledLog dongle log (k + n)) := by
  induction n generalizing k with
  | zero => rfl
  | succ n ih =>
      have hrest := @ih (k + 1) fun j hle hlt => hbusy j (by omega) (by omega)
      rw [pollLoop_step, if_pos (hbusy k (Nat.le_refl k) (by omega)), hrest, Nat.add_assoc,
        Nat.add_comm 1 n]

theorem pollLoop_last {n k last : Nat} (hle : k ≤ last) (hlt : last < k + n)
    (hbefore : ∀ j, k ≤ j → j < last → kickSeen (pollAnswer dongle log j) = true)
    (hclear : kickSeen (pollAnswer dongle log last) = false) :
    mt76PollLoop (mt76PollEfuseKick dongle) n (polledLog dongle log k) =
      (0, polledLog dongle log (last + 1)) := by
  induction n generalizing k with
  | zero => omega
  | succ n ih =>
      rw [pollLoop_step]
      by_cases hlast : k = last
      · rw [hlast, hclear, if_neg Bool.false_ne_true]
      · rw [if_pos (hbefore k (Nat.le_refl k) (by omega))]
        exact ih (by omega) (by omega) fun j hj => hbefore j (by omega)

/-- Either the driver gives up or there is a last poll. -/
theorem staysKicked_or_last (dongle : Dongle) (log : UsbLog) :
    StaysKicked dongle log ∨ ∃ k, LastPoll dongle log k := by
  by_cases hclear : ∃ k, k < 200 ∧ kickSeen (pollAnswer dongle log k) = false
  · obtain ⟨hlt, hfound⟩ := Nat.find_spec hclear
    refine Or.inr ⟨Nat.find hclear, hlt, fun j hj => ?_, hfound⟩
    have hnot := Nat.find_min hclear hj
    rw [not_and, Bool.not_eq_false] at hnot
    exact hnot (hj.trans hlt)
  · refine Or.inl fun k hk => ?_
    by_contra hnot
    exact hclear ⟨k, hk, Bool.eq_false_of_not_eq_true hnot⟩

/-! ## What the read does -/

theorem read_staysKicked (hbusy : StaysKicked dongle log) :
    (mt76EfuseRead dongle mtEeMacAddr 6 log).1 = some (-1) := by
  have hloop := @pollLoop_busy dongle log 200 0 fun j _ hj => hbusy j (by omega)
  have hpoll : mt76Poll (mt76PollEfuseKick dongle) (efuseSelect dongle mtEeMacAddr log) =
      (-1, polledLog dongle log 200) := by
    rw [mt76Poll]
    exact hloop
  rw [mt76EfuseRead, hpoll]
  rfl

/-- The two words of the address. -/
theorem efuseWords_mac (polled : UsbLog) :
    efuseWords dongle mtEeMacAddr 6 64 0 (List.replicate 6 0xff) polled =
      let first := mt76CtrlRead dongle (mtEfuseDataBase + 4) mtVendMultiRead polled
      let second := mt76CtrlRead dongle (mtEfuseDataBase + 8) mtVendMultiRead first.2
      (some 0, store32 first.1 ++ (store32 second.1).take 2, second.2) := rfl

/-- Two words are read, whatever comes back. -/
theorem read_lastPoll {k : Nat} (hlast : LastPoll dongle log k) :
    (mt76EfuseRead dongle mtEeMacAddr 6 log).1 = some 0 ∧
      Mac.load (mt76EfuseRead dongle mtEeMacAddr 6 log).2.1 =
        answeredMac (firstWord dongle log k) (secondWord dongle log k) ∧
      (mt76EfuseRead dongle mtEeMacAddr 6 log).2.2 =
        .ctrlRead (mtEfuseDataBase + 8) mtVendMultiRead (secondWord dongle log k) ::
          .ctrlRead (mtEfuseDataBase + 4) mtVendMultiRead (firstWord dongle log k) ::
            polledLog dongle log (k + 1) := by
  have hloop := @pollLoop_last dongle log 200 0 k (Nat.zero_le k) (by have := hlast.lt; omega)
    (fun j _ hj => hlast.before j hj) hlast.clear
  have hpoll : mt76Poll (mt76PollEfuseKick dongle) (efuseSelect dongle mtEeMacAddr log) =
      (0, polledLog dongle log (k + 1)) := by
    rw [mt76Poll]
    exact hloop
  have hread : mt76EfuseRead dongle mtEeMacAddr 6 log =
      efuseWords dongle mtEeMacAddr 6 64 0 (List.replicate 6 0xff)
        (polledLog dongle log (k + 1)) := by
    rw [mt76EfuseRead, hpoll]
    rfl
  rw [hread, efuseWords_mac]
  exact ⟨rfl, rfl, rfl⟩

/-- A kick bit that is seen was read. -/
theorem kickSeen_isSome {answer : Option UInt32} (hseen : kickSeen answer = true) :
    answer.isSome = true := by
  cases answer with
  | none => exact absurd hseen (by decide)
  | some val => rfl

/-- The polls before the last one go through. -/
theorem polledLog_fresh {k : Nat} (hbefore : ∀ j < k, kickSeen (pollAnswer dongle log j) = true) :
    ∃ polls, polledLog dongle log k = polls ++ efuseSelect dongle mtEeMacAddr log ∧
      ∀ io ∈ polls, ¬io.Failed := by
  induction k with
  | zero => exact ⟨[], rfl, fun _ hio => absurd hio List.not_mem_nil⟩
  | succ k ih =>
      obtain ⟨polls, hlog, hpolls⟩ := ih fun j hj => hbefore j (Nat.lt_succ_of_lt hj)
      refine ⟨.ctrlRead mtEfuseCtrl mtVendMultiRead (pollAnswer dongle log k) :: polls, ?_, ?_⟩
      · rw [List.cons_append, ← hlog]
        rfl
      · intro io hio
        rcases List.mem_cons.mp hio with rfl | hio
        · intro hnone
          have hsome := kickSeen_isSome (hbefore k (Nat.lt_succ_self k))
          rw [UsbIo.Failed] at hnone
          rw [hnone] at hsome
          cases hsome
        · exact hpolls io hio

/-- The transfers of a read that does not time out. -/
theorem read_fresh {k : Nat} (hlast : LastPoll dongle log k) :
    ∃ polls, (∀ io ∈ polls, ¬UsbIo.Failed io) ∧
      (mt76EfuseRead dongle mtEeMacAddr 6 log).2.2 =
        (.ctrlRead (mtEfuseDataBase + 8) mtVendMultiRead (secondWord dongle log k) ::
          .ctrlRead (mtEfuseDataBase + 4) mtVendMultiRead (firstWord dongle log k) ::
          .ctrlRead mtEfuseCtrl mtVendMultiRead (pollAnswer dongle log k) ::
          (polls ++
            [.ctrlWrite mtEfuseCtrl
              (efuseKick (mt76CtrlRead dongle mtEfuseCtrl mtVendMultiRead log).1 0x00)
              mtVendMultiWrite
              (dongle.ctrlWrite (mt76CtrlRead dongle mtEfuseCtrl mtVendMultiRead log).2 mtEfuseCtrl
                (efuseKick (mt76CtrlRead dongle mtEfuseCtrl mtVendMultiRead log).1 0x00)
                mtVendMultiWrite),
            .ctrlRead mtEfuseCtrl mtVendMultiRead
              (dongle.ctrlRead log mtEfuseCtrl mtVendMultiRead)])) ++ log := by
  obtain ⟨-, -, hlog⟩ := read_lastPoll hlast
  obtain ⟨polls, hpolled, hpolls⟩ := polledLog_fresh hlast.before
  refine ⟨polls, hpolls, ?_⟩
  have hnext : polledLog dongle log (k + 1) =
      .ctrlRead mtEfuseCtrl mtVendMultiRead (pollAnswer dongle log k) ::
        polledLog dongle log k := rfl
  rw [hlog, hnext, hpolled, List.cons_append, List.cons_append, List.cons_append, List.append_assoc]
  rfl

/-- Such a read fails where one of its transfers does. -/
theorem efuseAccessFails_iff {k : Nat} (hlast : LastPoll dongle log k) :
    EfuseAccessFails dongle log ↔ ¬AllAnswered dongle log k := by
  obtain ⟨hcode, -, -⟩ := read_lastPoll hlast
  obtain ⟨polls, hpolls, hlog⟩ := read_fresh hlast
  generalize hfresh : (_ :: _ : List UsbIo) = fresh at hlog
  have hall : (∀ io ∈ fresh, ¬io.Failed) ↔ AllAnswered dongle log k := by
    simp only [← hfresh, List.forall_mem_cons, List.forall_mem_append, UsbIo.not_failed_ctrlRead,
      UsbIo.not_failed_ctrlWrite]
    constructor
    · rintro ⟨hsecond, hfirst, hpoll, -, hkick, hcontrol, -⟩
      exact ⟨hcontrol, hkick, hpoll, hfirst, hsecond⟩
    · rintro ⟨hcontrol, hkick, hpoll, hfirst, hsecond⟩
      exact ⟨hsecond, hfirst, hpoll, hpolls, hkick, hcontrol,
        fun _ hio => absurd hio List.not_mem_nil⟩
  rw [EfuseAccessFails, hcode, hlog, ← hall]
  constructor
  · rintro (htimeout | ⟨others, hothers, io, hio, hfailed⟩) hgood
    · exact htimeout rfl
    · rw [← List.append_cancel_right hothers] at hio
      exact hgood io hio hfailed
  · intro hnot
    push Not at hnot
    exact Or.inr ⟨fresh, rfl, hnot⟩

/-! ## What the fuses say -/

theorem kickedBlock?_polledLog (k : Nat) : kickedBlock? (polledLog dongle log k) =
    kickedBlock? (efuseSelect dongle mtEeMacAddr log) := by
  induction k with
  | zero => rfl
  | succ k ih => exact ih

/-- Once every transfer went through, the first block is in the data registers. -/
theorem loadedBlock?_allAnswered {k : Nat} (hlast : LastPoll dongle log k)
    (hall : AllAnswered dongle log k) :
    loadedBlock? (polledLog dongle log (k + 1)) = some 0x00 := by
  obtain ⟨val, hval⟩ := Option.isSome_iff_exists.mp hall.poll
  have hclear : (val >>> 30) &&& 1 = 0 := by
    have hseen := hlast.clear
    rw [hval] at hseen
    simpa [kickSeen] using hseen
  have hlog : polledLog dongle log (k + 1) =
      .ctrlRead mtEfuseCtrl mtVendMultiRead (some val) :: polledLog dongle log k := by
    rw [← hval]
    rfl
  rw [hlog, loadedBlock?, if_pos ⟨rfl, hclear⟩, kickedBlock?_polledLog]
  have hkick := hall.kick
  simp only [kickedBlock?, efuseSelect, mt76CtrlWrite, List.findSome?_cons, if_pos]
  change (some (if dongle.ctrlWrite _ mtEfuseCtrl (efuseKick _ 0x00) mtVendMultiWrite then _
    else none)).join = _
  rw [hkick, if_pos rfl, Option.join_some]
  exact congrArg some (efuseKick_block _ 0x00)

/-- Then the address that is read is the one in the fuses. -/
theorem answeredMac_fuses {rom : Nat → UInt8} (hfuses : dongle.HoldsFuses rom) {k : Nat}
    (hlast : LastPoll dongle log k) (hall : AllAnswered dongle log k) :
    answeredMac (firstWord dongle log k) (secondWord dongle log k) = romMac rom := by
  obtain ⟨first, hfirst⟩ := Option.isSome_iff_exists.mp hall.first
  obtain ⟨second, hsecond⟩ := Option.isSome_iff_exists.mp hall.second
  have hloaded := loadedBlock?_allAnswered hlast hall
  have hword : first = romWord rom 4 := hfuses _ _ hloaded 1 first hfirst
  have hword' : second = romWord rom 8 := by
    refine hfuses _ 0x00 ?_ 2 second hsecond
    rw [hfirst, loadedBlock?, if_neg (fun hboth => absurd hboth.1 (by decide)), hloaded]
  rw [hfirst, hsecond, hword, hword', answeredMac, Option.getD_some, Option.getD_some,
    store32_romWord, store32_romWord]
  rfl

/-! ## The address -/

theorem addressStep_staysKicked (hbusy : StaysKicked dongle log) :
    (addressStep dongle log).1 = fallbackMac := by
  have hcode := read_staysKicked hbusy
  simp [addressStep, radioMac, mt76ReadMac, hcode]

theorem addressStep_lastPoll {k : Nat} (hlast : LastPoll dongle log k) :
    (addressStep dongle log).1 =
      correctPrefix (answeredMac (firstWord dongle log k) (secondWord dongle log k)) := by
  obtain ⟨hcode, hmac, -⟩ := read_lastPoll hlast
  simp [addressStep, radioMac, mt76ReadMac, hcode, hmac]

theorem store16_load16 (b0 b1 : UInt8) : store16 (load16 [b0, b1]) = [b0, b1] := by
  have h0 := b0.toNat_lt
  have h1 := b1.toNat_lt
  have hvalue : (load16 [b0, b1]).toNat = b0.toNat + 0x100 * b1.toNat := by
    rw [load16, UInt16.toNat_ofNat']
    simp only [byteAt_cons_zero, byteAt_cons_succ]
    omega
  rw [store16, hvalue]
  refine List.cons_eq_cons.mpr ⟨?_, List.cons_eq_cons.mpr ⟨?_, rfl⟩⟩ <;>
  · apply UInt8.toNat_inj.mp
    rw [UInt8.toNat_ofNat']
    omega

/-- The reads lead to the address that the step goes on with. -/
theorem readsUsable_address {rom : Nat → UInt8} (hfuses : dongle.HoldsFuses rom) {mac : Mac}
    (hreads : ReadsUsable dongle rom log mac) : (addressStep dongle log).1 = mac := by
  cases hreads with
  | timeout hbusy => exact addressStep_staysKicked hbusy
  | fuses hlast hall hown =>
      rw [addressStep_lastPoll hlast, answeredMac_fuses hfuses hlast hall]
  | spelled hlast hnot hspells =>
      rw [addressStep_lastPoll hlast, (correctPrefix_fallback _).mpr hspells]

/-- It is an address that controllers accept, the fallback address after a failure and that of the
fuses otherwise, just if the reads can be dealt with. -/
theorem readsUsable_iff {rom : Nat → UInt8} (hfuses : dongle.HoldsFuses rom) :
    ReadsUsable dongle rom log (addressStep dongle log).1 ↔
      (addressStep dongle log).1.InFamily ∧
      (EfuseAccessFails dongle log → (addressStep dongle log).1 = fallbackMac) ∧
      (¬EfuseAccessFails dongle log → (addressStep dongle log).1.b3 = rom 7 ∧
        (addressStep dongle log).1.b4 = rom 8 ∧ (addressStep dongle log).1.b5 = rom 9) := by
  have hfallback : fallbackMac.InFamily := by decide
  constructor
  · intro hreads
    generalize (addressStep dongle log).1 = mac at hreads
    cases hreads with
    | timeout hbusy =>
        have hfails : EfuseAccessFails dongle log :=
          Or.inl (by rw [read_staysKicked hbusy]; decide)
        exact ⟨hfallback, fun _ => rfl, fun hgood => absurd hfails hgood⟩
    | fuses hlast hall hown =>
        have hgood : ¬EfuseAccessFails dongle log :=
          fun hfails => (efuseAccessFails_iff hlast).mp hfails hall
        exact ⟨(correctPrefix_family _).mpr hown, fun hfails => absurd hfails hgood,
          fun _ => correctPrefix_rest _⟩
    | spelled hlast hnot hspells =>
        have hfails := (efuseAccessFails_iff hlast).mpr hnot
        exact ⟨hfallback, fun _ => rfl, fun hgood => absurd hfails hgood⟩
  · rintro ⟨hfamily, hfails, -⟩
    -- a time-out, a read that goes through, and one that fails unnoticed
    rcases staysKicked_or_last dongle log with hbusy | ⟨k, hlast⟩
    · rw [addressStep_staysKicked hbusy]
      exact .timeout hbusy
    by_cases hall : AllAnswered dongle log k
    · have hmac := addressStep_lastPoll hlast
      rw [answeredMac_fuses hfuses hlast hall] at hmac
      rw [hmac] at hfamily ⊢
      exact .fuses hlast hall ((correctPrefix_family _).mp hfamily)
    · have hmac := hfails ((efuseAccessFails_iff hlast).mpr hall)
      have hspells := addressStep_lastPoll hlast
      rw [hmac] at hspells ⊢
      exact .spelled hlast hall ((correctPrefix_fallback _).mp hspells.symm)

/-! ## The registers -/

section

variable (dongle : Dongle)

/-- A write that fails leaves a register as it is. -/
theorem register_mt76W (addr : UInt16) (val : UInt32) (log : UsbLog) :
    register (mt76W dongle addr val log) addr =
      if dongle.ctrlWrite log addr val mtVendMultiWrite then some val else register log addr := by
  rw [mt76W, mt76CtrlWrite, register_cons, UsbIo.written?]
  cases dongle.ctrlWrite log addr val mtVendMultiWrite with
  | false =>
      rw [if_neg fun h => Bool.false_ne_true h.2.2, if_neg Bool.false_ne_true, Option.none_or]
  | true => rw [if_pos ⟨rfl, rfl, rfl⟩, if_pos rfl, Option.some_or]

/-- Other registers are not concerned. -/
theorem registerBytes?_mt76W_of_ne {addr other : UInt16} (hother : other ≠ addr) (count : Nat)
    (val : UInt32) (log : UsbLog) :
    registerBytes? addr count (mt76W dongle other val log) = registerBytes? addr count log := by
  rw [registerBytes?, mt76W, mt76CtrlWrite, register_cons, UsbIo.written?,
    if_neg fun h => hother h.1, Option.none_or, registerBytes?]

theorem registerBytes?_mt76Writes_of_notMem {addr : UInt16} (count : Nat)
    (writes : List (UInt16 × UInt32)) (hother : addr ∉ writes.map Prod.fst) (log : UsbLog) :
    registerBytes? addr count (mt76Writes dongle writes log) = registerBytes? addr count log := by
  induction writes generalizing log with
  | nil => rfl
  | cons write rest ih =>
      rw [List.map_cons, List.mem_cons, not_or] at hother
      exact (ih hother.2 _).trans (registerBytes?_mt76W_of_ne dongle (Ne.symm hother.1) count _ log)

/-- After writes to different registers each holds its bytes just if the writes are usable. -/
theorem writesUsable_iff (writes : List (UInt16 × UInt32 × Nat))
    (hdistinct : (writes.map Prod.fst).Nodup) (log : UsbLog) :
    WritesUsable dongle writes log ↔ ∀ write ∈ writes,
      registerBytes? write.1 write.2.2
          (mt76Writes dongle (writes.map fun write => (write.1, write.2.1)) log) =
        some ((store32 write.2.1).take write.2.2) := by
  induction writes generalizing log with
  | nil => exact iff_of_true trivial fun _ hwrite => absurd hwrite List.not_mem_nil
  | cons write rest ih =>
      obtain ⟨addr, val, count⟩ := write
      rw [List.map_cons, List.nodup_cons] at hdistinct
      -- the writes behind the first one are to other registers, so what it leaves stays
      have hkept : addr ∉ (rest.map fun write => (write.1, write.2.1)).map Prod.fst := by
        rw [List.map_map]
        exact hdistinct.1
      have hfirst : registerBytes? addr count (mt76Writes dongle
          (rest.map fun write => (write.1, write.2.1)) (mt76W dongle addr val log)) =
            some ((store32 val).take count) ↔
          dongle.ctrlWrite log addr val mtVendMultiWrite = true ∨
            registerBytes? addr count log = some ((store32 val).take count) := by
        rw [registerBytes?_mt76Writes_of_notMem dongle count _ hkept, registerBytes?,
          register_mt76W]
        cases dongle.ctrlWrite log addr val mtVendMultiWrite with
        | false => exact (or_iff_right Bool.false_ne_true).symm
        | true => exact iff_of_true rfl (Or.inl rfl)
      rw [WritesUsable, ih hdistinct.2, List.forall_mem_cons]
      exact and_congr_left fun _ => hfirst.symm

end

theorem take_store32_toUInt32 (x : UInt16) : (store32 x.toUInt32).take 2 = store16 x := by
  rw [store32, UInt16.toNat_toUInt32]
  rfl

/-- The bytes of an address are those of its two words. -/
theorem macWords (mac : Mac) : (store32 (load32 mac.bytes)).take 4 = mac.bytes.take 4 ∧
    (store32 (load16 (mac.bytes.drop 4)).toUInt32).take 2 = mac.bytes.drop 4 := by
  have hlow : store32 (load32 mac.bytes) = mac.bytes.take 4 :=
    store32_romWord (fun i => mac.bytes.getD i 0) 0
  constructor
  · rw [hlow, List.take_take, Nat.min_self]
  · rw [take_store32_toUInt32]
    exact store16_load16 mac.b4 mac.b5

/-- A pair of registers has an address just if it has its bytes. -/
theorem programmedMac_iff {dw0 dw1 : UInt16} {mac : Mac} {log : UsbLog} :
    programmedMac dw0 dw1 log = some mac ↔
      registerBytes? dw0 4 log = some (mac.bytes.take 4) ∧
        registerBytes? dw1 2 log = some (mac.bytes.drop 4) := by
  have hload (low high : UInt32) :
      Mac.load ((store32 low).take 4 ++ (store32 high).take 2) = mac ↔
        (store32 low).take 4 = mac.bytes.take 4 ∧ (store32 high).take 2 = mac.bytes.drop 4 := by
    obtain ⟨b0, b1, b2, b3, b4, b5⟩ := mac
    simp [Mac.load, Mac.bytes, store32, and_assoc]
  rw [programmedMac, registerBytes?, registerBytes?]
  cases register log dw0 with
  | none => simp
  | some low =>
      cases register log dw1 with
      | none => simp
      | some high => simpa using hload low high

/-- The registers have the address that is returned just if the writes are usable. -/
theorem programmed_iff (dongle : Dongle) (log : UsbLog) :
    (programmedMac mtMacAddrDw0 mtMacAddrDw1 (addressStep dongle log).2 =
        some (addressStep dongle log).1 ∧
      programmedMac mtMacBssidDw0 mtMacBssidDw1 (addressStep dongle log).2 =
        some (addressStep dongle log).1) ↔
      WritesUsable dongle (macWrites (addressStep dongle log).1)
        (mt76EfuseRead dongle mtEeMacAddr 6 log).2.2 := by
  have hhistory : (radioMac dongle log).2 = (mt76EfuseRead dongle mtEeMacAddr 6 log).2.2 := by
    rw [radioMac, mt76ReadMac]
    split <;> rfl
  -- the two reads at the end leave the registers alone
  have hwritten (addr : UInt16) (count : Nat) :
      registerBytes? addr count (addressStep dongle log).2 =
        registerBytes? addr count (mt76Writes dongle
          ((macWrites (addressStep dongle log).1).map fun write => (write.1, write.2.1))
          (mt76EfuseRead dongle mtEeMacAddr 6 log).2.2) := by
    rw [← hhistory]
    rfl
  obtain ⟨hlow, hhigh⟩ := macWords (addressStep dongle log).1
  have hdistinct : ((macWrites (addressStep dongle log).1).map Prod.fst).Nodup := by
    change [mtMacAddrDw0, mtMacAddrDw1, mtMacBssidDw0, mtMacBssidDw1].Nodup
    decide
  rw [writesUsable_iff dongle _ hdistinct, programmedMac_iff, programmedMac_iff]
  simp only [hwritten, macWrites, List.forall_mem_cons, hlow, hhigh, and_assoc]
  simp

/-- The address is one that controllers accept, the fallback address after a failure and that of
the fuses otherwise, and the registers hold it, if and only if the reads can be dealt with and the
four writes go through, as far as the registers do not hold the address already. -/
theorem addressUsable_iff {rom : Nat → UInt8} (hfuses : dongle.HoldsFuses rom) :
    AddressUsable dongle rom log ↔ TransfersUsable dongle rom log := by
  constructor
  · rintro ⟨hprogrammed, hfamily, hfails, hgood⟩
    exact ⟨_, (readsUsable_iff hfuses).mpr ⟨hfamily, hfails, hgood⟩,
      (programmed_iff dongle log).mp hprogrammed⟩
  · rintro ⟨mac, hreads, hwrites⟩
    have hmac := readsUsable_address hfuses hreads
    subst hmac
    obtain ⟨hfamily, hfails, hgood⟩ := (readsUsable_iff hfuses).mp hreads
    exact ⟨(programmed_iff dongle log).mpr hwrites, hfamily, hfails, hgood⟩

end

theorem efuseBlock?_of_kicked {log : UsbLog} {block : UInt8}
    (hkicked : kickedBlock? log = some block) : efuseBlock? log = some block := by
  induction log with
  | nil => cases hkicked
  | cons io older ih =>
      cases io with
      | ctrlRead addr req val => exact ih hkicked
      | bulkOut ep packet status => exact ih hkicked
      | ctrlWrite addr val req ok =>
          by_cases haddr : addr = mtEfuseCtrl
          · cases ok <;> simp_all [kickedBlock?, efuseBlock?]
          · simp only [kickedBlock?, efuseBlock?, List.findSome?_cons, if_neg haddr] at hkicked ⊢
            exact ih hkicked

theorem efuseBlock?_of_loaded {log : UsbLog} {block : UInt8}
    (hloaded : loadedBlock? log = some block) : efuseBlock? log = some block := by
  induction log with
  | nil => cases hloaded
  | cons io older ih =>
      cases io with
      | ctrlRead addr req val =>
          cases val with
          | none => exact ih hloaded
          | some val =>
              rw [loadedBlock?] at hloaded
              split at hloaded
              · exact efuseBlock?_of_kicked hloaded
              · exact ih hloaded
      | bulkOut ep packet status => exact ih hloaded
      | ctrlWrite addr val req ok =>
          rw [loadedBlock?] at hloaded
          split at hloaded
          · cases hloaded
          next haddr =>
            simp only [efuseBlock?, List.findSome?_cons, if_neg haddr]
            exact ih hloaded

/-- A dongle that refuses some of the reads of `romDongle`. -/
def deafDongle (rom : Nat → UInt8) (deaf : UInt16 → Bool) : Dongle :=
  { romDongle rom with
    ctrlRead := fun log addr req =>
      if deaf addr then none else (romDongle rom).ctrlRead log addr req }

theorem deafDongle_holdsFuses (rom : Nat → UInt8) (deaf : UInt16 → Bool) :
    (deafDongle rom deaf).HoldsFuses rom := by
  intro log block hloaded word val hread
  have hrom := (romDongle_readsEfuse rom fun _ => True).data log trivial block
    (efuseBlock?_of_loaded hloaded) word
  simp only [deafDongle] at hread
  split at hread
  · cases hread
  · exact Option.some.inj (hread.symm.trans hrom)

/-- Fuses that are numbered, the start of the address excepted. -/
def numberedRom (b4 b5 b6 : UInt8) (i : Nat) : UInt8 :=
  if i = 4 then b4 else if i = 5 then b5 else if i = 6 then b6 else UInt8.ofNat i

theorem addressUsable_iff_foreign :
    AddressUsable (deafDongle (numberedRom 0x7c 0x1e 0x52) fun _ => false)
        (numberedRom 0x7c 0x1e 0x52) [] ↔
      TransfersUsable (deafDongle (numberedRom 0x7c 0x1e 0x52) fun _ => false)
        (numberedRom 0x7c 0x1e 0x52) [] :=
  addressUsable_iff (deafDongle_holdsFuses _ _)

/-- A dongle that refuses some of the writes of `romDongle`. -/
def stuckDongle (rom : Nat → UInt8) (stuck : UInt16 → Bool) : Dongle :=
  { romDongle rom with
    ctrlWrite := fun log addr val req =>
      !stuck addr && (romDongle rom).ctrlWrite log addr val req }

/-- Where the data registers cannot be read the address is 62:45:bd:00:00:00, fuses with 62:00:00
are taken as they are, and an address register that cannot be written stays without the address. -/
theorem address_not_usable :
    ¬AddressUsable (deafDongle (numberedRom 0x62 0x45 0xbd) fun addr => addr = 0x2c ∨ addr = 0x30)
        (numberedRom 0x62 0x45 0xbd) [] ∧
      ¬AddressUsable (deafDongle (numberedRom 0x62 0x00 0x00) fun _ => false)
        (numberedRom 0x62 0x00 0x00) [] ∧
      ¬AddressUsable (stuckDongle (numberedRom 0x62 0x45 0xbd) fun addr => addr = mtMacAddrDw0)
        (numberedRom 0x62 0x45 0xbd) [] := by
  refine ⟨?_, ?_, ?_⟩
  · intro husable
    by_cases hfails : EfuseAccessFails (deafDongle (numberedRom 0x62 0x45 0xbd)
        fun addr => addr = 0x2c ∨ addr = 0x30) []
    · exact absurd (husable.fallback hfails) (by decide +kernel)
    · exact absurd (husable.fuses hfails).1 (by decide +kernel)
  · intro husable
    exact absurd husable.family (by decide +kernel)
  · intro husable
    exact absurd husable.programmed.1 (by decide +kernel)

end XoneDarwin
