import XoneDarwin.Machine.Chunks
import XoneDarwin.Mt76.Firmware

/-!
# The chunks of an upload

`mt76_fw_load_part` cuts an image part into chunks, one a round. The counter and the sizes
are 32-bit words: the size check of `mt76_upload_fw_dma` adds them up with wrap-around, and
the counter itself runs around on a part that nearly fills the address space.
-/

namespace XoneDarwin

open Machine (Emits chunkAt chunkCount)

/-! ## One round -/

/-- The bytes a round carries. -/
def fwChunkLen (total done : UInt32) : UInt32 :=
  if total - done > mtFwChunkSize then mtFwChunkSize else total - done

/-- A control read. -/
def UsbIo.IsRead : UsbIo → Prop
  | .ctrlRead .. => True
  | _ => False

/-- What takes no notice of a control read takes none of many. -/
theorem reads_ignored {β : Type*} {f : UsbLog → β}
    (hread : ∀ addr req val log, f (.ctrlRead addr req val :: log) = f log) {before after : UsbLog}
    (hreads : Emits UsbIo.IsRead before after) : f after = f before := by
  obtain ⟨fresh, rfl, hfresh⟩ := hreads
  induction fresh with
  | nil => rfl
  | cons io fresh ih =>
      have hrest := ih fun entry hentry => hfresh entry (List.mem_cons_of_mem _ hentry)
      cases io with
      | ctrlRead addr req val => exact (hread addr req val _).trans hrest
      | ctrlWrite addr val req ok => exact absurd (hfresh _ List.mem_cons_self) id
      | bulkOut ep packet status => exact absurd (hfresh _ List.mem_cons_self) id

section

variable (dongle : Dongle) (dmaOffset : UInt32) (data : List UInt8) (total : UInt32)

/-- The body of the loop: 0 to go on, -1 to give up. -/
def fwRound (done : UInt32) (log : UsbLog) : Int × UsbLog :=
  let chunk := fwChunkLen total done
  let log := mt76CtrlWrite dongle mtFceDmaAddr (dmaOffset + done) mtVendWriteCfg log
  let log := mt76CtrlWrite dongle mtFceDmaLen (chunk <<< 16) mtVendWriteCfg log
  let sent := bulkTransfer dongle epCmd (fwPacket data done chunk) log
  if sent.1 ≠ .success ∧ sent.1 ≠ .timeout then (-1, sent.2)
  else
    let polled := mt76Poll (mt76PollFceDone dongle ((chunk <<< 16) ||| mtDmaComplete)) sent.2
    if polled.1 ≠ 0 then (-1, polled.2) else (0, polled.2)

/-- The loop does one round after the other. -/
theorem mt76FwLoadPart_succ (rounds : Nat) (done : UInt32) (log : UsbLog) :
    mt76FwLoadPart dongle dmaOffset data total (rounds + 1) done log =
      if done < total then
        if (fwRound dongle dmaOffset data total done log).1 = 0 then
          mt76FwLoadPart dongle dmaOffset data total rounds (done + mtFwChunkSize)
            (fwRound dongle dmaOffset data total done log).2
        else some (-1, (fwRound dongle dmaOffset data total done log).2)
      else some (0, log) := by
  have hchunk : (if total - done > mtFwChunkSize then mtFwChunkSize else total - done) =
      fwChunkLen total done := rfl
  rw [mt76FwLoadPart, fwRound, hchunk]
  dsimp only
  generalize fwChunkLen total done = chunk
  by_cases hdone : done < total
  · rw [if_pos hdone, if_pos hdone]
    generalize bulkTransfer dongle epCmd (fwPacket data done chunk) _ = sent
    by_cases hsent : sent.1 ≠ .success ∧ sent.1 ≠ .timeout
    · rw [if_pos hsent, if_pos hsent, if_neg (by decide : ¬(-1 : Int) = 0)]
    · rw [if_neg hsent, if_neg hsent]
      generalize mt76Poll (mt76PollFceDone dongle (chunk <<< 16 ||| mtDmaComplete)) sent.2 = polled
      by_cases hpolled : polled.1 ≠ 0
      · rw [if_pos hpolled, if_pos hpolled, if_neg (by decide : ¬(-1 : Int) = 0)]
      · rw [if_neg hpolled, if_neg hpolled, if_pos rfl]
  · rw [if_neg hdone, if_neg hdone]

/-- The log after `k` rounds, whatever they return. -/
def fwAfter (log : UsbLog) : Nat → UsbLog
  | 0 => log
  | k + 1 => (fwRound dongle dmaOffset data total (UInt32.ofNat (k * 0x3800)) (fwAfter log k)).2

/-- Round `k` goes through. -/
def RoundSucceeds (log : UsbLog) (k : Nat) : Prop :=
  (fwRound dongle dmaOffset data total (UInt32.ofNat (k * 0x3800))
    (fwAfter dongle dmaOffset data total log k)).1 = 0

theorem mt76PollFceDone_reads (expected : UInt32) (log : UsbLog) :
    Emits UsbIo.IsRead log (mt76Poll (mt76PollFceDone dongle expected) log).2 :=
  mt76Poll_emits (fun _ => Emits.one trivial) log

/-- What a round leaves on the bus: two register writes, the chunk, and reads of the length
register. -/
theorem fwRound_log (done : UInt32) (log : UsbLog) :
    Emits UsbIo.IsRead
      (bulkTransfer dongle epCmd (fwPacket data done (fwChunkLen total done))
        (mt76CtrlWrite dongle mtFceDmaLen (fwChunkLen total done <<< 16) mtVendWriteCfg
          (mt76CtrlWrite dongle mtFceDmaAddr (dmaOffset + done) mtVendWriteCfg log))).2
      (fwRound dongle dmaOffset data total done log).2 := by
  rw [fwRound]
  dsimp only
  split
  · exact Emits.refl _
  · split
    · exact mt76PollFceDone_reads dongle _ _
    · exact mt76PollFceDone_reads dongle _ _

end

/-! ## The counter -/

theorem counter_succ (k : Nat) :
    UInt32.ofNat (k * 0x3800) + mtFwChunkSize = UInt32.ofNat ((k + 1) * 0x3800) := by
  rw [Nat.succ_mul, UInt32.ofNat_add]
  rfl

/-- As long as the counter has not run around it counts the chunks. -/
theorem counter_lt_iff {k total : Nat} (htotal : total < 0x100000000)
    (hk : k * 0x3800 < 0x100000000) :
    UInt32.ofNat (k * 0x3800) < UInt32.ofNat total ↔ k < chunkCount 0x3800 total := by
  rw [UInt32.lt_iff_toNat_lt, UInt32.toNat_ofNat', UInt32.toNat_ofNat', Nat.mod_eq_of_lt hk,
    Nat.mod_eq_of_lt htotal, Machine.lt_chunkCount (by decide)]

theorem counter_in_range {k total : Nat} (htotal : total < 0x100000000)
    (hk : k < chunkCount 0x3800 total) : k * 0x3800 < 0x100000000 :=
  Nat.lt_trans ((Machine.lt_chunkCount (by decide)).mp hk) htotal

/-- Behind the last chunk of a part up to 0xfffff800 the counter has not run around. -/
theorem counter_end {total : Nat} (htotal : total ≤ 0xfffff800) :
    chunkCount 0x3800 total * 0x3800 < 0x100000000 := by
  rw [chunkCount]
  omega

/-- On such a part the counter counts the chunks up to the end. -/
theorem counter_lt_iff_of_le {k total : Nat} (htotal : total ≤ 0xfffff800)
    (hk : k ≤ chunkCount 0x3800 total) :
    UInt32.ofNat (k * 0x3800) < UInt32.ofNat total ↔ k < chunkCount 0x3800 total :=
  counter_lt_iff (Nat.lt_of_le_of_lt htotal (by decide))
    (Nat.lt_of_le_of_lt (Nat.mul_le_mul_right 0x3800 hk) (counter_end htotal))

/-- Behind the last chunk of a longer part it has. -/
theorem counter_wraps {total : Nat} (hlong : 0xfffff800 < total) (htotal : total < 0x100000000) :
    UInt32.ofNat (chunkCount 0x3800 total * 0x3800) < UInt32.ofNat total := by
  rw [UInt32.lt_iff_toNat_lt, UInt32.toNat_ofNat', UInt32.toNat_ofNat', chunkCount]
  omega

/-! ## Runs of the loop -/

section

variable {dongle : Dongle} {dmaOffset : UInt32} {data : List UInt8} {total : Nat} {log : UsbLog}

theorem load_done {rounds : Nat} {counter done : UInt32} (hdone : ¬done < counter) :
    mt76FwLoadPart dongle dmaOffset data counter rounds done log = some (0, log) := by
  cases rounds with
  | zero => exact if_neg hdone
  | succ rounds => rw [mt76FwLoadPart_succ, if_neg hdone]

/-- Successful rounds up to the last chunk. -/
theorem load_rounds (htotal : total < 0x100000000) (rounds : Nat) {k : Nat}
    (hk : k ≤ chunkCount 0x3800 total)
    (hrounds : ∀ i < k, RoundSucceeds dongle dmaOffset data (UInt32.ofNat total) log i) :
    mt76FwLoadPart dongle dmaOffset data (UInt32.ofNat total) (rounds + k) 0 log =
      mt76FwLoadPart dongle dmaOffset data (UInt32.ofNat total) rounds (UInt32.ofNat (k * 0x3800))
        (fwAfter dongle dmaOffset data (UInt32.ofNat total) log k) := by
  induction k generalizing rounds with
  | zero => rw [Nat.zero_mul]; rfl
  | succ k ih =>
      have hlt := (counter_lt_iff htotal (counter_in_range htotal hk)).mpr hk
      have hsucceeds := hrounds k (Nat.lt_succ_self k)
      rw [RoundSucceeds] at hsucceeds
      have hearlier := ih (rounds + 1) (Nat.le_of_lt hk)
        fun i hi => hrounds i (Nat.lt_succ_of_lt hi)
      rw [Nat.add_right_comm, Nat.add_assoc] at hearlier
      rw [hearlier, mt76FwLoadPart_succ, if_pos hlt, if_pos hsucceeds, counter_succ]
      rfl

/-- If every round goes through, the loop ends behind the last chunk. -/
theorem load_complete (htotal : total ≤ 0xfffff800) {rounds : Nat}
    (henough : chunkCount 0x3800 total ≤ rounds)
    (hrounds : ∀ i < chunkCount 0x3800 total,
      RoundSucceeds dongle dmaOffset data (UInt32.ofNat total) log i) :
    mt76FwLoadPart dongle dmaOffset data (UInt32.ofNat total) rounds 0 log =
      some (0, fwAfter dongle dmaOffset data (UInt32.ofNat total) log
        (chunkCount 0x3800 total)) := by
  have hrange : total < 0x100000000 := by omega
  obtain ⟨spare, rfl⟩ := Nat.exists_eq_add_of_le henough
  rw [Nat.add_comm, load_rounds hrange spare (Nat.le_refl _) hrounds]
  refine load_done fun hlt => ?_
  exact Nat.lt_irrefl _ ((counter_lt_iff_of_le htotal (Nat.le_refl _)).mp hlt)

/-- The first round that fails ends the loop. -/
theorem load_broken (htotal : total < 0x100000000) {rounds k : Nat}
    (hk : k < chunkCount 0x3800 total) (henough : k < rounds)
    (hrounds : ∀ i < k, RoundSucceeds dongle dmaOffset data (UInt32.ofNat total) log i)
    (hfails : ¬RoundSucceeds dongle dmaOffset data (UInt32.ofNat total) log k) :
    mt76FwLoadPart dongle dmaOffset data (UInt32.ofNat total) rounds 0 log =
      some (-1, fwAfter dongle dmaOffset data (UInt32.ofNat total) log (k + 1)) := by
  obtain ⟨spare, rfl⟩ := Nat.exists_eq_add_of_lt henough
  have hlt := (counter_lt_iff htotal (counter_in_range htotal hk)).mpr hk
  have hsplit : k + spare + 1 = spare + 1 + k := by omega
  rw [RoundSucceeds] at hfails
  rw [hsplit, load_rounds htotal (spare + 1) (Nat.le_of_lt hk) hrounds, mt76FwLoadPart_succ,
    if_pos hlt, if_neg hfails]
  rfl

/-- A loop that returns 0 has come to the end of a part that can be counted. -/
theorem load_zero_from (htotal : total ≤ 0xfffff800) {rounds k : Nat} {after : UsbLog}
    (hk : k ≤ chunkCount 0x3800 total)
    (hload : mt76FwLoadPart dongle dmaOffset data (UInt32.ofNat total) rounds
      (UInt32.ofNat (k * 0x3800)) (fwAfter dongle dmaOffset data (UInt32.ofNat total) log k) =
        some (0, after)) :
    after = fwAfter dongle dmaOffset data (UInt32.ofNat total) log (chunkCount 0x3800 total) := by
  have hend (j : Nat) (hj : j ≤ chunkCount 0x3800 total)
      (hdone : ¬UInt32.ofNat (j * 0x3800) < UInt32.ofNat total) : j = chunkCount 0x3800 total :=
    Nat.le_antisymm hj (Nat.le_of_not_lt (mt (counter_lt_iff_of_le htotal hj).mpr hdone))
  induction rounds generalizing k with
  | zero =>
      rw [mt76FwLoadPart] at hload
      split at hload
      · cases hload
      next hdone =>
        cases hload
        rw [hend k hk hdone]
  | succ rounds ih =>
      rw [mt76FwLoadPart_succ] at hload
      split at hload
      next hmore =>
        split at hload
        · rw [counter_succ] at hload
          exact ih ((counter_lt_iff_of_le htotal hk).mp hmore) hload
        · cases hload
      next hdone =>
        cases hload
        rw [hend k hk hdone]

/-- On a longer part the counter, a multiple of 0x800, never gets to the end. -/
theorem load_long (hlong : 0xfffff800 < total) (htotal : total < 0x100000000) {rounds : Nat}
    {done : UInt32} {after : UsbLog} (hdone : done.toNat % 0x800 = 0) :
    mt76FwLoadPart dongle dmaOffset data (UInt32.ofNat total) rounds done log ≠
      some (0, after) := by
  have hmore (counter : UInt32) (hcounter : counter.toNat % 0x800 = 0) :
      counter < UInt32.ofNat total := by
    have hrange := counter.toNat_lt
    rw [UInt32.lt_iff_toNat_lt, UInt32.toNat_ofNat']
    omega
  intro hload
  induction rounds generalizing done log with
  | zero =>
      rw [mt76FwLoadPart, if_pos (hmore done hdone)] at hload
      cases hload
  | succ rounds ih =>
      rw [mt76FwLoadPart_succ, if_pos (hmore done hdone)] at hload
      split at hload
      · refine ih ?_ hload
        have hsize : mtFwChunkSize.toNat = 0x3800 := rfl
        rw [UInt32.toNat_add, hsize]
        omega
      · cases hload

/-- A call that returns 0 has sent every chunk. -/
theorem load_zero (htotal : total < 0x100000000) {rounds : Nat} {after : UsbLog}
    (hload : mt76FwLoadPart dongle dmaOffset data (UInt32.ofNat total) rounds 0 log =
      some (0, after)) :
    after = fwAfter dongle dmaOffset data (UInt32.ofNat total) log (chunkCount 0x3800 total) := by
  by_cases hlong : 0xfffff800 < total
  · exact absurd hload (load_long hlong htotal rfl)
  · have hstart : mt76FwLoadPart dongle dmaOffset data (UInt32.ofNat total) rounds
        (UInt32.ofNat (0 * 0x3800)) (fwAfter dongle dmaOffset data (UInt32.ofNat total) log 0) =
          some (0, after) := by
      rw [Nat.zero_mul]
      exact hload
    exact load_zero_from (Nat.le_of_not_lt hlong) (Nat.zero_le _) hstart

end

/-! ## What has been sent -/

/-- A packet with the values last written to the address and the length register before it. -/
structure SentChunk where
  address : Option UInt32
  lengthWord : Option UInt32
  packet : List UInt8
  deriving DecidableEq

/-- The value last written to a register of the upload, whether the write went through or not. -/
def lastWrite (register : UInt16) (log : UsbLog) : Option UInt32 :=
  log.findSome? fun
    | .ctrlWrite addr val req _ =>
        if addr = register ∧ req = mtVendWriteCfg then some val else none
    | _ => none

/-- The packets of a log in the order they were sent. -/
def sentChunks : UsbLog → List SentChunk
  | [] => []
  | .bulkOut _ packet _ :: log =>
      sentChunks log ++ [⟨lastWrite mtFceDmaAddr log, lastWrite mtFceDmaLen log, packet⟩]
  | .ctrlRead .. :: log => sentChunks log
  | .ctrlWrite .. :: log => sentChunks log

/-- Every round sends one packet, to the address and with the length it has just written. -/
theorem sentChunks_fwRound (dongle : Dongle) (dmaOffset : UInt32) (data : List UInt8)
    (total done : UInt32) (log : UsbLog) :
    sentChunks (fwRound dongle dmaOffset data total done log).2 =
      sentChunks log ++ [⟨some (dmaOffset + done), some (fwChunkLen total done <<< 16),
        fwPacket data done (fwChunkLen total done)⟩] := by
  rw [reads_ignored (f := sentChunks) (fun _ _ _ _ => rfl)
    (fwRound_log dongle dmaOffset data total done log)]
  rfl

/-- The chunk carries `bytes` for `address`: between the TxInfo word and the padding, and with
their number in the TxInfo word and in the length register. The bits of `MT_DMA_COMPLETE`, which
the poll adds to the length word, are not in use. -/
structure SentChunk.Carries (chunk : SentChunk) (address : Nat) (bytes : List UInt8) : Prop where
  address : ∃ value, chunk.address = some value ∧ value.toNat = address
  nonempty : 1 ≤ bytes.length
  bounded : bytes.length ≤ 0x3800
  packet : ∃ info, chunk.packet = store32 info ++ bytes ++ List.replicate 4 0 ∧
    info.toNat % 0x10000 = bytes.length
  lengthWord : ∃ value, chunk.lengthWord = some value ∧ value.toNat = bytes.length * 0x10000 ∧
    value &&& mtDmaComplete = 0

section

variable {dmaOffset : UInt32} {part rest : List UInt8}

/-- What a round carries of a part in memory. -/
theorem fwChunkLen_toNat {k : Nat} (hpart : part.length < 0x100000000)
    (hk : k < chunkCount 0x3800 part.length) :
    (fwChunkLen (UInt32.ofNat part.length) (UInt32.ofNat (k * 0x3800))).toNat =
      min 0x3800 (part.length - k * 0x3800) := by
  have hstart := (Machine.lt_chunkCount (by decide)).mp hk
  have hleft : (UInt32.ofNat part.length - UInt32.ofNat (k * 0x3800)).toNat =
      part.length - k * 0x3800 := by
    rw [← UInt32.ofNat_sub (Nat.le_of_lt hstart), UInt32.toNat_ofNat']
    exact Nat.mod_eq_of_lt (by omega)
  have hsize : mtFwChunkSize.toNat = 0x3800 := rfl
  rw [fwChunkLen]
  split
  next hmore =>
    rw [gt_iff_lt, UInt32.lt_iff_toNat_lt, hleft, hsize] at hmore
    rw [hsize]
    omega
  next hlast =>
    rw [gt_iff_lt, UInt32.lt_iff_toNat_lt, hleft, hsize] at hlast
    rw [hleft]
    omega

/-- The length of a chunk stays clear of the two upper bits. -/
theorem and_dmaComplete {word : UInt32} (hword : word.toNat < 0x40000000) :
    word &&& mtDmaComplete = 0 := by
  have hmask : mtDmaComplete.toNat = 3 <<< 30 := rfl
  rw [← UInt32.toNat_inj, UInt32.toNat_and, hmask]
  apply Nat.eq_of_testBit_eq
  intro i
  rw [Nat.testBit_and, Nat.testBit_shiftLeft, UInt32.toNat_zero, Nat.zero_testBit]
  by_cases hi : 30 ≤ i
  · have hpow : 2 ^ 30 ≤ 2 ^ i := Nat.pow_le_pow_right (by decide) hi
    rw [Nat.testBit_lt_two_pow (Nat.lt_of_lt_of_le hword hpow), Bool.false_and]
  · rw [decide_eq_false hi, Bool.false_and, Bool.and_false]

/-- The packet of a round has its chunk between the TxInfo word and the padding. -/
theorem fwPacket_chunk {k : Nat} (hpart : part.length < 0x100000000)
    (hk : k < chunkCount 0x3800 part.length) :
    fwPacket (part ++ rest) (UInt32.ofNat (k * 0x3800))
        (fwChunkLen (UInt32.ofNat part.length) (UInt32.ofNat (k * 0x3800))) =
      store32 (mt76MakeTxinfoFw
          (fwChunkLen (UInt32.ofNat part.length) (UInt32.ofNat (k * 0x3800))).toUInt16) ++
        chunkAt 0x3800 part k ++ List.replicate 4 0 := by
  have hstart := (Machine.lt_chunkCount (by decide)).mp hk
  have hcount : (UInt32.ofNat (k * 0x3800)).toNat = k * 0x3800 := by
    rw [UInt32.toNat_ofNat']
    exact Nat.mod_eq_of_lt (by omega)
  have hcarried : ((part ++ rest).drop (k * 0x3800)).take
      (min 0x3800 (part.length - k * 0x3800)) = chunkAt 0x3800 part k :=
    Machine.chunkAt_of_append (Nat.le_of_lt hstart)
  rw [fwPacket, hcount, fwChunkLen_toNat hpart hk, hcarried]

/-- The packet of a round carries its chunk. -/
theorem round_carries {k : Nat} (hsum : dmaOffset.toNat + part.length < 0x100000000)
    (hk : k < chunkCount 0x3800 part.length) :
    SentChunk.Carries
      ⟨some (dmaOffset + UInt32.ofNat (k * 0x3800)),
        some (fwChunkLen (UInt32.ofNat part.length) (UInt32.ofNat (k * 0x3800)) <<< 16),
        fwPacket (part ++ rest) (UInt32.ofNat (k * 0x3800))
          (fwChunkLen (UInt32.ofNat part.length) (UInt32.ofNat (k * 0x3800)))⟩
      (dmaOffset.toNat + k * 0x3800) (chunkAt 0x3800 part k) := by
  have hstart := (Machine.lt_chunkCount (by decide)).mp hk
  have hrange : part.length < 0x100000000 := by omega
  have hpacket := @fwPacket_chunk part rest k hrange hk
  have hlen := fwChunkLen_toNat hrange hk
  generalize fwChunkLen (UInt32.ofNat part.length) (UInt32.ofNat (k * 0x3800)) = chunk
    at hlen hpacket ⊢
  have hbytes : (chunkAt 0x3800 part k).length = chunk.toNat := by
    rw [Machine.length_chunkAt, hlen]
  have hsmall : chunk.toNat ≤ 0x3800 := by omega
  have hpos : 1 ≤ chunk.toNat := by omega
  constructor
  · refine ⟨_, rfl, ?_⟩
    rw [UInt32.toNat_add, UInt32.toNat_ofNat']
    omega
  · rw [hbytes]
    exact hpos
  · rw [hbytes]
    exact hsmall
  · refine ⟨_, hpacket, ?_⟩
    have hlow : chunk.toUInt16.toNat = chunk.toNat := by
      rw [UInt32.toNat_toUInt16]
      exact Nat.mod_eq_of_lt (by omega)
    rw [mt76MakeTxinfoFw_toNat, hbytes, hlow]
    omega
  · have hbound : chunk.toNat * 0x10000 < 0x40000000 :=
      Nat.lt_of_le_of_lt (Nat.mul_le_mul_right _ hsmall) (by decide)
    have hshift : (16 : UInt32).toNat % 32 = 16 := rfl
    have hword : (chunk <<< 16).toNat = chunk.toNat * 0x10000 := by
      rw [UInt32.toNat_shiftLeft, hshift, Nat.shiftLeft_eq]
      exact Nat.mod_eq_of_lt (Nat.lt_trans hbound (by decide))
    refine ⟨_, rfl, ?_, and_dmaComplete ?_⟩
    · rw [hword, hbytes]
    · rw [hword]
      exact hbound

/-- The packet of round `k`. -/
def fwChunk (dmaOffset : UInt32) (data : List UInt8) (total : UInt32) (k : Nat) : SentChunk :=
  let done := UInt32.ofNat (k * 0x3800)
  ⟨some (dmaOffset + done), some (fwChunkLen total done <<< 16),
    fwPacket data done (fwChunkLen total done)⟩

/-- The first rounds send the first packets. -/
theorem sentChunks_fwAfter (dongle : Dongle) (data : List UInt8) (total : UInt32) (log : UsbLog)
    (k : Nat) :
    sentChunks (fwAfter dongle dmaOffset data total log k) =
      sentChunks log ++ (List.range k).map (fwChunk dmaOffset data total) := by
  induction k with
  | zero => simp [fwAfter]
  | succ k ih =>
      rw [fwAfter, sentChunks_fwRound, ih, List.range_succ, List.map_append, List.append_assoc]
      rfl

/-- How a part with `rest` behind it in memory is loaded: in chunks that make up the part, the
first `k` of them in the first `k` rounds, until all are sent or the first round fails. -/
structure LoadsInChunks (dmaOffset : UInt32) (part rest : List UInt8) : Prop where
  complete : ∀ dongle log rounds, chunkCount 0x3800 part.length ≤ rounds →
    (∀ i < chunkCount 0x3800 part.length,
      RoundSucceeds dongle dmaOffset (part ++ rest) (UInt32.ofNat part.length) log i) →
    mt76FwLoadPart dongle dmaOffset (part ++ rest) (UInt32.ofNat part.length) rounds 0 log =
      some (0, fwAfter dongle dmaOffset (part ++ rest) (UInt32.ofNat part.length) log
        (chunkCount 0x3800 part.length))
  broken : ∀ dongle log rounds k, k < chunkCount 0x3800 part.length → k < rounds →
    (∀ i < k, RoundSucceeds dongle dmaOffset (part ++ rest) (UInt32.ofNat part.length) log i) →
    ¬RoundSucceeds dongle dmaOffset (part ++ rest) (UInt32.ofNat part.length) log k →
    mt76FwLoadPart dongle dmaOffset (part ++ rest) (UInt32.ofNat part.length) rounds 0 log =
      some (-1, fwAfter dongle dmaOffset (part ++ rest) (UInt32.ofNat part.length) log (k + 1))
  sent : ∃ chunk : Nat → SentChunk,
    (∀ dongle log k, k ≤ chunkCount 0x3800 part.length →
      sentChunks (fwAfter dongle dmaOffset (part ++ rest) (UInt32.ofNat part.length) log k) =
        sentChunks log ++ (List.range k).map chunk) ∧
    ∀ i < chunkCount 0x3800 part.length,
      (chunk i).Carries (dmaOffset.toNat + i * 0x3800) (chunkAt 0x3800 part i)
  partition :
    ((List.range (chunkCount 0x3800 part.length)).map (chunkAt 0x3800 part)).flatten = part

/-- A dongle that takes every transfer and reports the length it was given as complete. -/
def readyDongle : Dongle where
  ctrlRead log addr _ :=
    if addr = mtFceDmaLen then (lastWrite mtFceDmaLen log).map (· ||| mtDmaComplete) else some 0
  ctrlWrite _ _ _ _ := true
  bulkOut _ _ _ := .success

/-- A poll that need not wait returns at once. -/
theorem mt76Poll_done {fn : UsbLog → Bool × UsbLog} {log : UsbLog} (hdone : (fn log).1 = false) :
    mt76Poll fn log = (0, (fn log).2) := by
  have hpoll : mt76Poll fn log =
      if (fn log).1 then mt76PollLoop fn 199 (fn log).2 else (0, (fn log).2) := rfl
  rw [hpoll, if_neg (by rw [hdone]; decide)]

theorem readyDongle_succeeds (data : List UInt8) (total : UInt32) (log : UsbLog) (k : Nat) :
    RoundSucceeds readyDongle dmaOffset data total log k := by
  rw [RoundSucceeds, fwRound]
  generalize fwAfter readyDongle dmaOffset data total log k = log
  generalize fwChunkLen total (UInt32.ofNat (k * 0x3800)) = chunk
  dsimp only
  rw [if_neg (fun hfailed => hfailed.1 rfl), mt76Poll_done, if_neg (not_not_intro rfl)]
  have hread : (mt76PollFceDone readyDongle (chunk <<< 16 ||| mtDmaComplete)
      (bulkTransfer readyDongle epCmd (fwPacket data (UInt32.ofNat (k * 0x3800)) chunk)
        (mt76CtrlWrite readyDongle mtFceDmaLen (chunk <<< 16) mtVendWriteCfg
          (mt76CtrlWrite readyDongle mtFceDmaAddr (dmaOffset + UInt32.ofNat (k * 0x3800))
            mtVendWriteCfg log))).2).1 =
      ((chunk <<< 16 ||| mtDmaComplete) != (chunk <<< 16 ||| mtDmaComplete)) := rfl
  rw [hread, bne_self_eq_false]

/-- A longer part is never loaded: behind the last chunk the counter starts again. -/
theorem LoadsInChunks.length_le (hsum : dmaOffset.toNat + part.length < 0x100000000)
    (hloads : LoadsInChunks dmaOffset part rest) : part.length ≤ 0xfffff800 := by
  by_contra hlong
  have hrange : part.length < 0x100000000 := by omega
  have hsucceeds := @readyDongle_succeeds dmaOffset (part ++ rest) (UInt32.ofNat part.length) []
  have hended := hloads.complete readyDongle [] _ (Nat.le_refl _) fun i _ => hsucceeds i
  have hrounds := load_rounds hrange 0 (Nat.le_refl _) fun i _ => hsucceeds i
  rw [Nat.zero_add] at hrounds
  rw [hrounds, mt76FwLoadPart, if_pos (counter_wraps (by omega) hrange)] at hended
  cases hended

/-- A part that ends below 2^32 is loaded chunk by chunk exactly if it is no longer than the
largest multiple of the chunk size below 2^32. -/
theorem loadsInChunks_iff (hsum : dmaOffset.toNat + part.length < 0x100000000) :
    LoadsInChunks dmaOffset part rest ↔ part.length ≤ 0xfffff800 := by
  have hrange : part.length < 0x100000000 := by omega
  refine ⟨fun hloads => hloads.length_le hsum, fun hshort => ?_⟩
  constructor
  · intro dongle log rounds henough hrounds
    exact load_complete hshort henough hrounds
  · intro dongle log rounds k hk henough hrounds hfails
    exact load_broken hrange hk henough hrounds hfails
  · refine ⟨fwChunk dmaOffset (part ++ rest) (UInt32.ofNat part.length), ?_, ?_⟩
    · intro dongle log k _
      exact sentChunks_fwAfter dongle _ _ log k
    · intro i hi
      exact round_carries hsum hi
  · exact Machine.flatten_chunkAt (by decide) part

/-- A part of 2^32 - 1 bytes for address 0 keeps the loop going for good. -/
theorem loadsInChunks_too_long :
    ¬LoadsInChunks 0 (List.replicate 0xffffffff 0) [] := by
  intro hloads
  have hshort := hloads.length_le (by rw [List.length_replicate]; decide)
  rw [List.length_replicate] at hshort
  exact absurd hshort (by decide)

/-- Two chunks, the second with a single byte. -/
theorem loadsInChunks_two : LoadsInChunks mtMcuIlmOffset (List.replicate 0x3801 0xea) [0x00] :=
  (loadsInChunks_iff (by rw [List.length_replicate]; decide)).mpr
    (by rw [List.length_replicate]; decide)

end

/-! ## The size check -/

/-- `mt76_upload_fw_dma` gets past its size check: it does not return -1 before its first
transfer. -/
def PastSizeCheck (dongle : Dongle) (forceReload : Bool) (fw : List UInt8) (rounds : Nat)
    (log : UsbLog) : Prop :=
  fwUpload dongle forceReload fw rounds log ≠ some (.returned (-1) log)

/-- The image fits its buffer, and so does everything a round of either part copies. -/
structure CopiesInside (fw : List UInt8) : Prop where
  sum : 32 + (load32 fw).toNat + (load32 (fw.drop 4)).toNat ≤ fw.length
  ilm : ∀ done < load32 fw,
    32 + done.toNat + (fwChunkLen (load32 fw) done).toNat ≤ fw.length
  dlm : ∀ done < load32 (fw.drop 4),
    32 + (load32 fw).toNat + done.toNat + (fwChunkLen (load32 (fw.drop 4)) done).toNat ≤ fw.length

theorem fwChunkLen_le {total done : UInt32} (hdone : done < total) :
    done.toNat + (fwChunkLen total done).toNat ≤ total.toNat := by
  have hleft : (total - done).toNat = total.toNat - done.toNat :=
    UInt32.toNat_sub_of_le _ _ (UInt32.le_of_lt hdone)
  rw [UInt32.lt_iff_toNat_lt] at hdone
  rw [fwChunkLen]
  split
  next hmore =>
    rw [gt_iff_lt, UInt32.lt_iff_toNat_lt, hleft] at hmore
    omega
  next hlast =>
    rw [hleft]
    omega

/-- Copies stay inside the buffer exactly if the sum that was meant fits. -/
theorem copiesInside_iff (fw : List UInt8) :
    CopiesInside fw ↔ 32 + (load32 fw).toNat + (load32 (fw.drop 4)).toNat ≤ fw.length := by
  refine ⟨CopiesInside.sum, fun hsum => ⟨hsum, ?_, ?_⟩⟩
  · intro done hdone
    have hchunk := fwChunkLen_le hdone
    omega
  · intro done hdone
    have hchunk := fwChunkLen_le hdone
    omega

theorem fwReset_read (dongle : Dongle) (log : UsbLog) :
    Emits UsbIo.IsCtrl log (fwReset dongle log) := by
  rw [fwReset]
  exact (((mt76CtrlRead_emits dongle _ _ log).trans (mt76CtrlWrite_emits dongle _ _ _ _)).trans
    (mt76CtrlWrite_emits dongle _ _ _ _)).trans (mt76Poll_emits (fun _ => Emits.one trivial) _)

/-- An upload that has started leaves more on the bus than it found. -/
theorem fwTransfer_ne {dongle : Dongle} {fw : List UInt8} {rounds : Nat} {log started : UsbLog}
    (hstarted : log.length < started.length) :
    fwTransfer dongle fw rounds started ≠ some (.returned (-1) log) := by
  intro htransfer
  obtain ⟨sent, hsent, hstage | hstage⟩ := fwTransfer_uploading dongle htransfer
  · cases hstage
    have hlength := hsent.suffix.length_le
    omega
  · cases hstage

theorem pastSizeCheck_iff (dongle : Dongle) (forceReload : Bool) (fw : List UInt8) (rounds : Nat)
    (log : UsbLog) :
    PastSizeCheck dongle forceReload fw rounds log ↔
      32 ≤ fw.length ∧ (32 + load32 fw + load32 (fw.drop 4)).toNat ≤ fw.length := by
  rw [PastSizeCheck, fwUpload]
  by_cases hshort : fw.length < 32
  · rw [if_pos hshort]
    exact iff_of_false (not_not_intro rfl) fun hfits => by omega
  rw [if_neg hshort]
  by_cases hsmall : (32 + load32 fw + load32 (fw.drop 4)).toNat > fw.length
  · rw [if_pos hsmall]
    exact iff_of_false (not_not_intro rfl) fun hfits => by omega
  rw [if_neg hsmall]
  refine iff_of_true ?_ ⟨Nat.le_of_not_lt hshort, Nat.le_of_not_lt hsmall⟩
  have hread : (mt76CtrlRead dongle mtFceDmaAddr mtVendReadCfg log).2.length = log.length + 1 := rfl
  have hsetup (before : UsbLog) : before.length ≤ (fwDmaSetup dongle before).length :=
    (fwDmaSetup_uploading dongle before).suffix.length_le
  dsimp only
  split
  · split
    · have hreset := (fwReset_read dongle
        (mt76CtrlRead dongle mtFceDmaAddr mtVendReadCfg log).2).suffix.length_le
      have hafter := hsetup (fwReset dongle (mt76CtrlRead dongle mtFceDmaAddr mtVendReadCfg log).2)
      exact fwTransfer_ne (by omega)
    · simp
  · have hafter := hsetup (mt76CtrlRead dongle mtFceDmaAddr mtVendReadCfg log).2
    exact fwTransfer_ne (by omega)

/-- The size check protects the upload unless the sum of the header words passes 2^32 and what
is left of it fits a buffer that the sum does not fit. -/
theorem sizeCheck_protects_iff (dongle : Dongle) (forceReload : Bool) {fw : List UInt8}
    (hfw : 32 ≤ fw.length) (rounds : Nat) (log : UsbLog) :
    (PastSizeCheck dongle forceReload fw rounds log → CopiesInside fw) ↔
      32 + (load32 fw).toNat + (load32 (fw.drop 4)).toNat < 0x100000000 ∨
        fw.length < (32 + (load32 fw).toNat + (load32 (fw.drop 4)).toNat) % 0x100000000 ∨
        32 + (load32 fw).toNat + (load32 (fw.drop 4)).toNat ≤ fw.length := by
  have hsum : (32 + load32 fw + load32 (fw.drop 4)).toNat =
      (32 + (load32 fw).toNat + (load32 (fw.drop 4)).toNat) % 0x100000000 := by
    simp only [UInt32.toNat_add, UInt32.reduceToNat]
    omega
  rw [pastSizeCheck_iff, copiesInside_iff, hsum, and_iff_right hfw]
  generalize 32 + (load32 fw).toNat + (load32 (fw.drop 4)).toNat = sum
  omega

/-- A buffer of 32 bytes whose header announces 2^32 - 32 bytes of code. -/
def hugeImage : List UInt8 :=
  store32 0xffffffe0 ++ store32 0 ++ List.replicate 24 0

theorem sizeCheck_wraps : PastSizeCheck readyDongle false hugeImage 0 [] ∧
    ¬CopiesInside hugeImage := by
  rw [pastSizeCheck_iff, copiesInside_iff]
  decide

theorem sizeCheck_protects_tiny :
    PastSizeCheck readyDongle false tinyImage 1 [] ∧ CopiesInside tinyImage := by
  have hpast : PastSizeCheck readyDongle false tinyImage 1 [] :=
    (pastSizeCheck_iff readyDongle false tinyImage 1 []).mpr (by decide)
  exact ⟨hpast, (sizeCheck_protects_iff readyDongle false (by decide) 1 []).mpr (by decide) hpast⟩

end XoneDarwin
