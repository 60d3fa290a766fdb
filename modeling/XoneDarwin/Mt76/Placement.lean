import XoneDarwin.Mt76.Chunks
import XoneDarwin.Mt76.Resident

/-!
# Where the image ends up

The device stores a chunk at the address it was given last. A control write that fails is
not noticed by the host, so a chunk can land at a stale address; the completion poll looks
at the length register only.
-/

namespace XoneDarwin

open Machine (Emits chunkAt chunkCount)

/-! ## The device -/

/-- The bytes of a chunk packet between the TxInfo word and the padding. -/
def carriedBytes (packet : List UInt8) : List UInt8 :=
  (packet.drop 4).take (packet.length - 8)

/-- A chunk stored at an address, byte by byte; without an address it is stored nowhere. -/
def storeAt (address : Option UInt32) (bytes : List UInt8) : List (Option UInt32 × UInt8) :=
  bytes.mapIdx fun x byte => (address.map (· + UInt32.ofNat x), byte)

/-- The address at which the device stores a chunk that arrives after `log`: the one written last
with success. A transfer that timed out stores nothing. -/
def chunkAddress (log : UsbLog) (status : UsbStatus) : Option UInt32 :=
  if status = .success then some (dmaAddr log) else none

/-- The bytes the host has sent, in order, each with the address at which it was stored. -/
def storedBytes : UsbLog → List (Option UInt32 × UInt8)
  | [] => []
  | .bulkOut _ packet status :: log =>
      storedBytes log ++ storeAt (chunkAddress log status) (carriedBytes packet)
  | .ctrlRead .. :: log => storedBytes log
  | .ctrlWrite .. :: log => storedBytes log

/-- Since `log` every byte of the part was stored, `part[j]` at `dmaOffset + j`. -/
def PartPlaced (dmaOffset : UInt32) (part : List UInt8) (log after : UsbLog) : Prop :=
  storedBytes after = storedBytes log ++
    part.mapIdx fun j byte => (some (dmaOffset + UInt32.ofNat j), byte)

/-- The length the device was given last. -/
def UsbIo.dmaLen? : UsbIo → Option UInt32
  | .ctrlWrite addr val req ok =>
      if addr = mtFceDmaLen ∧ req = mtVendWriteCfg ∧ ok then some val else none
  | _ => none

/-- The device reports completion for the length it was given last. -/
def Dongle.ReportsLength (dongle : Dongle) : Prop :=
  ∀ log, dongle.ctrlRead log mtFceDmaLen mtVendReadCfg =
    (log.findSome? UsbIo.dmaLen?).map (· ||| mtDmaComplete)

theorem carriedBytes_fwPacket (info : UInt32) (bytes : List UInt8) :
    carriedBytes (store32 info ++ bytes ++ List.replicate 4 0) = bytes := by
  have hdrop : (store32 info ++ bytes ++ List.replicate 4 0).drop 4 =
      bytes ++ List.replicate 4 0 := rfl
  have hlength : (store32 info ++ bytes ++ List.replicate 4 0).length - 8 = bytes.length := by
    simp only [List.length_append, length_store32, List.length_replicate]
    omega
  rw [carriedBytes, hdrop, hlength, List.take_left]

/-! ## One round -/

section

variable (dongle : Dongle) (dmaOffset : UInt32) (data : List UInt8) (total : UInt32) (log : UsbLog)

/-- The log when the packet of round `k` is sent. -/
def fwArmed (k : Nat) : UsbLog :=
  let done := UInt32.ofNat (k * 0x3800)
  mt76CtrlWrite dongle mtFceDmaLen (fwChunkLen total done <<< 16) mtVendWriteCfg
    (mt76CtrlWrite dongle mtFceDmaAddr (dmaOffset + done) mtVendWriteCfg
      (fwAfter dongle dmaOffset data total log k))

/-- The bulk transfer of round `k`. -/
def fwStatus (k : Nat) : UsbStatus :=
  let done := UInt32.ofNat (k * 0x3800)
  dongle.bulkOut (fwArmed dongle dmaOffset data total log k) epCmd
    (fwPacket data done (fwChunkLen total done))

/-- The device takes the address of round `k`. -/
def AddressTaken (k : Nat) : Prop :=
  dongle.ctrlWrite (fwAfter dongle dmaOffset data total log k) mtFceDmaAddr
    (dmaOffset + UInt32.ofNat (k * 0x3800)) mtVendWriteCfg = true

/-- Round `k` reaches the device: its packet is received, and its address is taken, or it is the
first and the device still has its address. -/
def ChunkArrives (k : Nat) : Prop :=
  fwStatus dongle dmaOffset data total log k = .success ∧
    (AddressTaken dongle dmaOffset data total log k ∨ k = 0 ∧ dmaAddr log = dmaOffset)

instance (k : Nat) : Decidable (AddressTaken dongle dmaOffset data total log k) :=
  inferInstanceAs (Decidable (_ = true))

instance (k : Nat) : Decidable (ChunkArrives dongle dmaOffset data total log k) :=
  inferInstanceAs (Decidable (_ ∧ _))

variable {dongle dmaOffset data total log} {k : Nat}

theorem fwAfter_succ_log :
    Emits UsbIo.IsRead
      (.bulkOut epCmd (fwPacket data (UInt32.ofNat (k * 0x3800))
        (fwChunkLen total (UInt32.ofNat (k * 0x3800)))) (fwStatus dongle dmaOffset data total log k)
        :: fwArmed dongle dmaOffset data total log k)
      (fwAfter dongle dmaOffset data total log (k + 1)) :=
  fwRound_log dongle dmaOffset data total _ _

theorem dmaAddr_fwArmed :
    dmaAddr (fwArmed dongle dmaOffset data total log k) =
      if AddressTaken dongle dmaOffset data total log k then dmaOffset + UInt32.ofNat (k * 0x3800)
      else dmaAddr (fwAfter dongle dmaOffset data total log k) := by
  have hlen (val : UInt32) (ok : Bool) (before : UsbLog) :
      dmaAddr (.ctrlWrite mtFceDmaLen val mtVendWriteCfg ok :: before) = dmaAddr before := rfl
  have haddr (val : UInt32) (ok : Bool) (before : UsbLog) :
      dmaAddr (.ctrlWrite mtFceDmaAddr val mtVendWriteCfg ok :: before) =
        if ok = true then val else dmaAddr before := by
    cases ok with
    | true => rfl
    | false => rfl
  rw [fwArmed, mt76CtrlWrite, hlen, mt76CtrlWrite, haddr]
  rfl

theorem dmaAddr_fwAfter_succ :
    dmaAddr (fwAfter dongle dmaOffset data total log (k + 1)) =
      dmaAddr (fwArmed dongle dmaOffset data total log k) := by
  rw [reads_ignored (f := dmaAddr) (fun _ _ _ _ => rfl) fwAfter_succ_log]
  rfl

theorem chunkAddress_eq_some {before : UsbLog} {status : UsbStatus} {address : UInt32} :
    chunkAddress before status = some address ↔ status = .success ∧ dmaAddr before = address := by
  rw [chunkAddress]
  split
  next hsuccess => rw [Option.some.injEq, and_iff_right hsuccess]
  next hfailed => exact iff_of_false (by simp) fun hboth => hfailed hboth.1

/-- The chunks of a part have different addresses. -/
theorem chunk_addresses_ne {k : Nat} (hk : k + 1 < chunkCount 0x3800 total.toNat) :
    dmaOffset + UInt32.ofNat (k * 0x3800) ≠ dmaOffset + UInt32.ofNat ((k + 1) * 0x3800) := by
  have hbound := (Machine.lt_chunkCount (by decide)).mp hk
  have htotal := total.toNat_lt
  intro hsame
  rw [UInt32.add_right_inj, ← UInt32.toNat_inj, UInt32.toNat_ofNat', UInt32.toNat_ofNat'] at hsame
  omega

/-- Every chunk of a part is stored at its own address exactly if each of them reaches the
device. -/
theorem addresses_iff :
    (∀ i < chunkCount 0x3800 total.toNat,
        chunkAddress (fwArmed dongle dmaOffset data total log i)
          (fwStatus dongle dmaOffset data total log i) =
            some (dmaOffset + UInt32.ofNat (i * 0x3800))) ↔
      ∀ i < chunkCount 0x3800 total.toNat, ChunkArrives dongle dmaOffset data total log i := by
  simp only [chunkAddress_eq_some]
  constructor
  · intro hall i hi
    obtain ⟨hstatus, haddress⟩ := hall i hi
    refine ⟨hstatus, ?_⟩
    by_cases htaken : AddressTaken dongle dmaOffset data total log i
    · exact Or.inl htaken
    · rw [dmaAddr_fwArmed, if_neg htaken] at haddress
      cases i with
      | zero =>
          refine Or.inr ⟨rfl, haddress.trans ?_⟩
          rw [Nat.zero_mul]
          exact UInt32.add_zero _
      | succ k =>
          -- the register still holds the address of the chunk before
          rw [dmaAddr_fwAfter_succ, (hall k (Nat.lt_of_succ_lt hi)).2] at haddress
          exact absurd haddress (chunk_addresses_ne hi)
  · intro hall i hi
    obtain ⟨hstatus, haddress⟩ := hall i hi
    refine ⟨hstatus, ?_⟩
    rw [dmaAddr_fwArmed]
    split
    · rfl
    next hrefused =>
      obtain ⟨rfl, hheld⟩ := haddress.resolve_left hrefused
      rw [Nat.zero_mul]
      exact hheld.trans (UInt32.add_zero _).symm

/-- What the rounds have stored. -/
theorem storedBytes_fwAfter (n : Nat) :
    storedBytes (fwAfter dongle dmaOffset data total log n) =
      storedBytes log ++ ((List.range n).map fun i =>
        storeAt (chunkAddress (fwArmed dongle dmaOffset data total log i)
            (fwStatus dongle dmaOffset data total log i))
          (carriedBytes (fwPacket data (UInt32.ofNat (i * 0x3800))
            (fwChunkLen total (UInt32.ofNat (i * 0x3800)))))).flatten := by
  induction n with
  | zero => simp [fwAfter]
  | succ n ih =>
      have harmed : storedBytes (fwArmed dongle dmaOffset data total log n) =
          storedBytes (fwAfter dongle dmaOffset data total log n) := rfl
      rw [reads_ignored (f := storedBytes) (fun _ _ _ _ => rfl) fwAfter_succ_log, storedBytes, harmed,
        ih, List.range_succ, List.map_append, List.flatten_append, List.append_assoc]
      simp

end

/-- A chunk lands where it belongs exactly if its first byte does. -/
theorem storeAt_eq_iff {address : Option UInt32} {base : UInt32} {bytes : List UInt8}
    (hbytes : 0 < bytes.length) :
    storeAt address bytes = bytes.mapIdx (fun x byte => (some (base + UInt32.ofNat x), byte)) ↔
      address = some base := by
  constructor
  · intro hsame
    obtain ⟨byte, rest, rfl⟩ := List.exists_cons_of_length_pos hbytes
    rw [storeAt, List.mapIdx_cons, List.mapIdx_cons] at hsame
    have hfirst := (Prod.mk.inj (List.cons.inj hsame).1).1
    cases address with
    | none => cases hfirst
    | some address =>
        have hsum := Option.some.inj hfirst
        rw [UInt32.add_left_inj] at hsum
        rw [hsum]
  · rintro rfl
    rfl

/-! ## A whole part -/

section

variable {dongle : Dongle} {dmaOffset : UInt32} {part rest : List UInt8} {log after : UsbLog}

/-- Of a part for which `mt76_fw_load_part` returns 0 every byte was stored at its own address
exactly if every chunk reached the device. A length write that fails does no harm. -/
theorem placed_iff (hpart : part.length < 0x100000000) {rounds : Nat}
    (hload : mt76FwLoadPart dongle dmaOffset (part ++ rest) (UInt32.ofNat part.length) rounds 0
      log = some (0, after)) :
    PartPlaced dmaOffset part log after ↔ ∀ i < chunkCount 0x3800 part.length,
      ChunkArrives dongle dmaOffset (part ++ rest) (UInt32.ofNat part.length) log i := by
  have htotal : (UInt32.ofNat part.length).toNat = part.length := by
    rw [UInt32.toNat_ofNat']
    exact Nat.mod_eq_of_lt hpart
  have harrives := @addresses_iff dongle dmaOffset (part ++ rest) (UInt32.ofNat part.length) log
  rw [htotal] at harrives
  rw [← harrives, PartPlaced, load_zero hpart hload, storedBytes_fwAfter, List.append_right_inj,
    Machine.mapIdx_chunkAt (by decide : 0 < 0x3800) part, Machine.flatten_range_inj ?_]
  · refine forall_congr' fun i => forall_congr' fun hi => ?_
    have hoffset (x : Nat) : dmaOffset + UInt32.ofNat (x + i * 0x3800) =
        dmaOffset + UInt32.ofNat (i * 0x3800) + UInt32.ofNat x := by
      rw [Nat.add_comm, UInt32.ofNat_add, UInt32.add_assoc]
    simp only [hoffset]
    rw [fwPacket_chunk hpart hi, carriedBytes_fwPacket,
      storeAt_eq_iff (Machine.length_chunkAt_pos (by decide) hi)]
  · intro i hi
    rw [fwPacket_chunk hpart hi, carriedBytes_fwPacket, storeAt, List.length_mapIdx,
      List.length_mapIdx]

end

/-! ## One lost address -/

/-- Four bytes of code. -/
def tinyPart : List UInt8 :=
  List.replicate 4 0xea

/-- A dongle that takes every transfer but the chunk addresses. -/
def staleDongle : Dongle where
  ctrlRead log addr _ :=
    if addr = mtFceDmaLen then (log.findSome? UsbIo.dmaLen?).map (· ||| mtDmaComplete) else some 0
  ctrlWrite _ addr _ _ := addr != mtFceDmaAddr
  bulkOut _ _ _ := .success

theorem staleDongle_reportsLength : staleDongle.ReportsLength := by
  intro log
  simp only [staleDongle, if_true]

/-- The chunk is stored at address 0, and the call returns 0. -/
theorem placed_stale : staleDongle.ReportsLength ∧ ∃ after,
    mt76FwLoadPart staleDongle mtMcuIlmOffset (tinyPart ++ []) (UInt32.ofNat tinyPart.length) 1 0
      [] = some (0, after) ∧ ¬PartPlaced mtMcuIlmOffset tinyPart [] after := by
  refine ⟨staleDongle_reportsLength, _, rfl, fun hplaced => ?_⟩
  revert hplaced
  rw [PartPlaced]
  decide

theorem placed_ready : ∃ after,
    mt76FwLoadPart readyDongle mtMcuIlmOffset (tinyPart ++ []) (UInt32.ofNat tinyPart.length) 1 0
      [] = some (0, after) ∧ PartPlaced mtMcuIlmOffset tinyPart [] after := by
  have hload : ∃ after, mt76FwLoadPart readyDongle mtMcuIlmOffset (tinyPart ++ [])
      (UInt32.ofNat tinyPart.length) 1 0 [] = some (0, after) := ⟨_, rfl⟩
  obtain ⟨after, hload⟩ := hload
  exact ⟨after, hload, (placed_iff (by decide) hload).mpr (by decide)⟩

end XoneDarwin
