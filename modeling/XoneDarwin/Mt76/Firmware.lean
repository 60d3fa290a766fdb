import XoneDarwin.Mt76.Packet

/-!
# Firmware upload

The DMA upload of `mt76_upload_fw_dma`, split where the source issues the boot
command: `fwUpload` is everything up to it, `fwStartPoll` the wait for the
firmware to start.
-/

namespace XoneDarwin

open Machine (Emits)

abbrev mtFwChunkSize : UInt32 := 0x3800
abbrev mtMcuIlmOffset : UInt32 := 0x80000
abbrev mtMcuDlmOffset : UInt32 := 0x100000 + 0x10800
abbrev mtDmaComplete : UInt32 := 0xc0000000

variable (dongle : Dongle)

/-- The buffer of one chunk: TxInfo word, data, four bytes of alignment padding. -/
def fwPacket (data : List UInt8) (done chunk : UInt32) : List UInt8 :=
  store32 (mt76MakeTxinfoFw chunk.toUInt16) ++ (data.drop done.toNat).take chunk.toNat ++
    List.replicate 4 0

/-- `mt76_fw_load_part` with `rounds` iterations left. The counter `done` is a
`uint32_t` and may wrap, so the loop need not end: `none` means it is still running. -/
def mt76FwLoadPart (dmaOffset : UInt32) (data : List UInt8) (total : UInt32) :
    Nat → UInt32 → UsbLog → Option (Int × UsbLog)
  | 0, done, log => if done < total then none else some (0, log)
  | rounds + 1, done, log =>
      if done < total then
        let chunk := if total - done > mtFwChunkSize then mtFwChunkSize else total - done
        let log := mt76CtrlWrite dongle mtFceDmaAddr (dmaOffset + done) mtVendWriteCfg log
        let log := mt76CtrlWrite dongle mtFceDmaLen (chunk <<< 16) mtVendWriteCfg log
        let sent := bulkTransfer dongle epCmd (fwPacket data done chunk) log
        if sent.1 ≠ .success ∧ sent.1 ≠ .timeout then some (-1, sent.2)
        else
          let polled := mt76Poll (mt76PollFceDone dongle ((chunk <<< 16) ||| mtDmaComplete)) sent.2
          if polled.1 ≠ 0 then some (-1, polled.2)
          else mt76FwLoadPart dmaOffset data total rounds (done + mtFwChunkSize) polled.2
      else some (0, log)

/-- Where `mt76_upload_fw_dma` stands when it stops before, or arrives at, its start poll. -/
inductive FwStage
  /-- returned early with this code -/
  | returned (rc : Int) (log : UsbLog)
  /-- image uploaded, boot command issued -/
  | booted (log : UsbLog)

/-- The forced reset of resident firmware: clear the patch flag, reset the IVB, wait. -/
def fwReset (log : UsbLog) : UsbLog :=
  let patch := mt76CtrlRead dongle mtRfPatch mtVendReadCfg log
  let log := mt76CtrlWrite dongle mtRfPatch (patch.1 &&& ~~~((1 : UInt32) <<< 19)) mtVendWriteCfg
    patch.2
  let log := mt76CtrlWrite dongle mtFwResetIvb 0 mtVendDevMode log
  -- the loop runs at most 200 times and its outcome is not looked at
  (mt76Poll (fun log =>
    let fce := mt76CtrlRead dongle mtFceDmaAddr mtVendReadCfg log
    (fce.1 == 0x80000000, fce.2)) log).2

/-- DMA set-up before the upload. -/
def fwDmaSetup (log : UsbLog) : UsbLog :=
  mt76Writes dongle
    [(mtFcePseCtrl, 0x01), (mtTxCpuFromFceBasePtr, 0x400230), (mtTxCpuFromFceMaxCount, 0x01),
      (mtTxCpuFromFceCpuDescIdx, 0x01), (mtFcePdmaGlobalConf, 0x44), (mtFceSkipFs, 0x03)]
    (mt76CtrlWrite dongle mtUsbU3dmaCfg (((1 : UInt32) <<< 22) ||| ((1 : UInt32) <<< 23))
      mtVendWriteCfg log)

/-- The IVB address and the boot command. -/
def fwBoot (log : UsbLog) : UsbLog :=
  mt76CtrlWrite dongle mtFwLoadIvb 0 mtVendDevMode
    (mt76CtrlWrite dongle mtFceDmaAddr 0 mtVendWriteCfg log)

/-- Upload of the two image parts and the boot command. -/
def fwTransfer (fw : List UInt8) (rounds : Nat) (log : UsbLog) : Option FwStage :=
  let ilmLen := load32 fw
  let dlmLen := load32 (fw.drop 4)
  (mt76FwLoadPart dongle mtMcuIlmOffset (fw.drop 32) ilmLen rounds 0 log).bind fun ilm =>
    if ilm.1 ≠ 0 then some (.returned (-1) ilm.2)
    else
      (mt76FwLoadPart dongle mtMcuDlmOffset (fw.drop (32 + ilmLen.toNat)) dlmLen rounds 0
        ilm.2).map fun dlm =>
          if dlm.1 ≠ 0 then .returned (-1) dlm.2 else .booted (fwBoot dongle dlm.2)

/-- `mt76_upload_fw_dma` up to the boot command. The size check is done in
32-bit arithmetic, as in the source. -/
def fwUpload (forceReload : Bool) (fw : List UInt8) (rounds : Nat) (log : UsbLog) :
    Option FwStage :=
  if fw.length < 32 then some (.returned (-1) log)
  else if (32 + load32 fw + load32 (fw.drop 4)).toNat > fw.length then
    some (.returned (-1) log)
  else
    let fce := mt76CtrlRead dongle mtFceDmaAddr mtVendReadCfg log
    if fce.1 ≠ 0 then
      if forceReload then fwTransfer dongle fw rounds (fwDmaSetup dongle (fwReset dongle fce.2))
      else some (.returned 0 fce.2)
    else fwTransfer dongle fw rounds (fwDmaSetup dongle fce.2)

/-- The start poll with `attempts` rounds left. The register is read once more
for the log line. -/
def fwStartPoll : Nat → UsbLog → Int × UsbLog
  | 0, log => (-1, log)
  | attempts + 1, log =>
      let fce := mt76CtrlRead dongle mtFceDmaAddr mtVendReadCfg log
      if fce.1 ≠ 0x01 then (0, (mt76CtrlRead dongle mtFceDmaAddr mtVendReadCfg fce.2).2)
      else fwStartPoll attempts fce.2

/-- `mt76_upload_fw_dma`; `none` while an upload loop is still running. -/
def mt76UploadFwDma (forceReload : Bool) (fw : List UInt8) (rounds : Nat) (log : UsbLog) :
    Option (Int × UsbLog) :=
  match fwUpload dongle forceReload fw rounds log with
  | none => none
  | some (.returned rc log) => some (rc, log)
  | some (.booted log) => some (fwStartPoll dongle 400 log)

/-! ## Transfers of an upload -/

/-- A transfer on the way to the boot command: anything but a packet of another kind or a
vendor command. -/
def UsbIo.Uploading : UsbIo → Prop
  | .ctrlRead .. => True
  | .ctrlWrite _ _ req _ => req ≠ mtVendDevMode
  | .bulkOut ep packet _ =>
      ep = epCmd ∧ ∃ len rest, packet = store32 (mt76MakeTxinfoFw len) ++ rest

/-- The log of an upload stage. -/
def FwStage.log : FwStage → UsbLog
  | .returned _ log => log
  | .booted log => log

theorem mt76CtrlWrite_uploading (addr : UInt16) (val : UInt32) (log : UsbLog) :
    Emits UsbIo.Uploading log (mt76CtrlWrite dongle addr val mtVendWriteCfg log) := by
  have hcfg : (UsbIo.ctrlWrite addr val mtVendWriteCfg
      (dongle.ctrlWrite log addr val mtVendWriteCfg)).Uploading := by
    change mtVendWriteCfg ≠ mtVendDevMode
    decide
  exact Emits.one hcfg

theorem fwPacket_uploading (data : List UInt8) (done chunk : UInt32) (log : UsbLog) :
    Emits UsbIo.Uploading log (bulkTransfer dongle epCmd (fwPacket data done chunk) log).2 :=
  Emits.one ⟨rfl, chunk.toUInt16, _, List.append_assoc _ _ _⟩

theorem mt76PollFceDone_uploading (expected : UInt32) (log : UsbLog) :
    Emits UsbIo.Uploading log (mt76Poll (mt76PollFceDone dongle expected) log).2 :=
  mt76Poll_emits (fun _ => Emits.one trivial) log

/-- Each round writes the chunk's address and length, sends the chunk and polls. -/
theorem mt76FwLoadPart_uploading {dmaOffset total : UInt32} {data : List UInt8} (rounds : Nat)
    {done : UInt32} {log : UsbLog} {result : Int × UsbLog}
    (hload : mt76FwLoadPart dongle dmaOffset data total rounds done log = some result) :
    Emits UsbIo.Uploading log result.2 := by
  induction rounds generalizing done log with
  | zero =>
      simp only [mt76FwLoadPart] at hload
      split at hload
      · cases hload
      · cases hload
        exact Emits.refl _
  | succ rounds ih =>
      simp only [mt76FwLoadPart] at hload
      split at hload
      case isFalse =>
        cases hload
        exact Emits.refl _
      case isTrue =>
        have haddress (address len : UInt32) :=
          (mt76CtrlWrite_uploading dongle mtFceDmaAddr address log).trans
            (mt76CtrlWrite_uploading dongle mtFceDmaLen len _)
        have hsent (address len chunk : UInt32) :=
          (haddress address len).trans (fwPacket_uploading dongle data done chunk _)
        generalize (if total - done > mtFwChunkSize then mtFwChunkSize else total - done) = chunk
          at hload
        split at hload
        · -- the bulk transfer failed
          cases hload
          exact hsent _ _ _
        · have hpolled := (hsent (dmaOffset + done) (chunk <<< 16) chunk).trans
            (mt76PollFceDone_uploading dongle ((chunk <<< 16) ||| mtDmaComplete) _)
          split at hload
          · -- the completion never showed
            cases hload
            exact hpolled
          · exact hpolled.trans (ih hload)

/-- A transfer of both parts ends with an error, or with the boot command in front. -/
theorem fwTransfer_uploading {fw : List UInt8} {rounds : Nat} {log : UsbLog} {stage : FwStage}
    (htransfer : fwTransfer dongle fw rounds log = some stage) :
    ∃ sent, Emits UsbIo.Uploading log sent ∧
      (stage = .returned (-1) sent ∨ stage = .booted (fwBoot dongle sent)) := by
  simp only [fwTransfer, Option.bind_eq_some_iff] at htransfer
  obtain ⟨ilm, hilm, htransfer⟩ := htransfer
  have hloaded := mt76FwLoadPart_uploading dongle rounds hilm
  split at htransfer
  · cases htransfer
    exact ⟨ilm.2, hloaded, Or.inl rfl⟩
  · obtain ⟨dlm, hdlm, hstage⟩ := Option.map_eq_some_iff.mp htransfer
    have hboth := hloaded.trans (mt76FwLoadPart_uploading dongle rounds hdlm)
    refine ⟨dlm.2, hboth, ?_⟩
    split at hstage
    · exact Or.inl hstage.symm
    · exact Or.inr hstage.symm

theorem fwDmaSetup_uploading (log : UsbLog) :
    Emits UsbIo.Uploading log (fwDmaSetup dongle log) := by
  have hmulti : mtVendMultiWrite ≠ mtVendDevMode := by decide
  exact (mt76CtrlWrite_uploading dongle mtUsbU3dmaCfg _ log).trans
    (mt76Writes_entries dongle (fun _ _ _ => hmulti) _ _)

/-! ## Starting the firmware -/

/-- A successful read of the start register that returned a non-zero value. -/
def UsbIo.ShowsStart (io : UsbIo) : Prop :=
  ∃ val, val ≠ 0 ∧ io = .ctrlRead mtFceDmaAddr mtVendReadCfg (some val)

/-- What a return code promises about the transfers since the boot command: 0 means
that the register was seen at a value other than the 0 written before booting,
and a register that was never seen there means failure. -/
def FirmwareStarted (rc : Int) (sinceBoot : UsbLog) : Prop :=
  (rc = 0 → ∃ io ∈ sinceBoot, io.ShowsStart) ∧
    ((∀ io ∈ sinceBoot, ¬io.ShowsStart) → rc = -1)

/-- The dongle's answers to the first two reads of the start register after `log`. -/
def Dongle.startAnswers (log : UsbLog) : List (Option UInt32) :=
  let first := dongle.ctrlRead log mtFceDmaAddr mtVendReadCfg
  [first, dongle.ctrlRead (.ctrlRead mtFceDmaAddr mtVendReadCfg first :: log)
    mtFceDmaAddr mtVendReadCfg]

/-- One of the first two reads after `log` succeeds with a non-zero value. -/
def Dongle.AnswersStart (log : UsbLog) : Prop :=
  ∃ val, val ≠ 0 ∧ some val ∈ dongle.startAnswers log

/-- The poll ends within its attempts, and only reads the start register. -/
theorem fwStartPoll_reads (attempts : Nat) (log : UsbLog) :
    ∃ reads, (fwStartPoll dongle attempts log).2 = reads ++ log ∧
      reads.length ≤ attempts + 1 ∧
      ((fwStartPoll dongle attempts log).1 = 0 ∨ (fwStartPoll dongle attempts log).1 = -1) := by
  induction attempts generalizing log with
  | zero => exact ⟨[], rfl, by simp, Or.inr rfl⟩
  | succ attempts ih =>
      simp only [fwStartPoll]
      split
      · exact ⟨[_, _], rfl, by simp, Or.inl rfl⟩
      · obtain ⟨reads, hreads, hlength, hcode⟩ :=
          ih (mt76CtrlRead dongle mtFceDmaAddr mtVendReadCfg log).2
        refine ⟨reads ++ [.ctrlRead mtFceDmaAddr mtVendReadCfg
          (dongle.ctrlRead log mtFceDmaAddr mtVendReadCfg)], ?_, by simp; omega, hcode⟩
        rw [hreads]
        simp [mt76CtrlRead]

theorem fwTransfer_booted {fw : List UInt8} {rounds : Nat} {log booted : UsbLog}
    (htransfer : fwTransfer dongle fw rounds log = some (.booted booted)) :
    ∃ sent, booted = fwBoot dongle sent := by
  obtain ⟨sent, -, hstage | hstage⟩ := fwTransfer_uploading dongle htransfer
  · cases hstage
  · cases hstage
    exact ⟨sent, rfl⟩

/-- The boot command is the last transfer of an upload that gets through. -/
theorem fwUpload_booted {forceReload : Bool} {fw : List UInt8} {rounds : Nat}
    {log booted : UsbLog}
    (hupload : fwUpload dongle forceReload fw rounds log = some (.booted booted)) :
    ∃ sent, booted = fwBoot dongle sent := by
  simp only [fwUpload] at hupload
  split at hupload
  · cases hupload
  split at hupload
  · cases hupload
  split at hupload
  · split at hupload
    · exact fwTransfer_booted dongle hupload
    · cases hupload
  · exact fwTransfer_booted dongle hupload

theorem UsbIo.showsStart_read {answer : Option UInt32} :
    (UsbIo.ctrlRead mtFceDmaAddr mtVendReadCfg answer).ShowsStart ↔
      ∃ val, val ≠ 0 ∧ some val = answer := by
  simp only [UsbIo.ShowsStart, UsbIo.ctrlRead.injEq, true_and, eq_comm]

theorem firmwareStarted_of_shows {rc : Int} {reads : UsbLog} {io : UsbIo} (hio : io ∈ reads)
    (hshows : io.ShowsStart) : FirmwareStarted rc reads :=
  ⟨fun _ => ⟨io, hio, hshows⟩, fun hnone => absurd hshows (hnone io hio)⟩

theorem firmwareStarted_zero {reads : UsbLog} :
    FirmwareStarted 0 reads ↔ ∃ io ∈ reads, io.ShowsStart := by
  constructor
  · exact fun hstarted => hstarted.1 rfl
  · intro hread
    obtain ⟨io, hio, hshows⟩ := hread
    exact firmwareStarted_of_shows hio hshows

/-- The poll keeps its promise exactly when one of its first two reads shows the start.
A first read of 1 keeps it waiting and shows the start by itself. -/
theorem fwStartPoll_started_iff (attempts : Nat) (log : UsbLog) :
    ∃ rc reads, fwStartPoll dongle (attempts + 1) log = (rc, reads ++ log) ∧
      reads.length ≤ attempts + 2 ∧
      (FirmwareStarted rc reads ↔ dongle.AnswersStart log) := by
  generalize hfirst : dongle.ctrlRead log mtFceDmaAddr mtVendReadCfg = first
  by_cases hwait : first.getD 0 = 0x01
  · have hpoll : fwStartPoll dongle (attempts + 1) log =
        fwStartPoll dongle attempts (.ctrlRead mtFceDmaAddr mtVendReadCfg first :: log) := by
      simp [fwStartPoll, mt76CtrlRead, hfirst, hwait]
    have hone : some 1 = first := by
      cases first with
      | none => simp at hwait
      | some val => rw [← hwait, Option.getD_some]
    obtain ⟨reads, hreads, hlength, -⟩ :=
      fwStartPoll_reads dongle attempts (.ctrlRead mtFceDmaAddr mtVendReadCfg first :: log)
    refine ⟨_, reads ++ [.ctrlRead mtFceDmaAddr mtVendReadCfg first],
      hpoll.trans (Prod.ext rfl (by rw [hreads]; simp)), by simp; omega, ?_⟩
    refine iff_of_true (firmwareStarted_of_shows (List.mem_append_right _ List.mem_cons_self)
      (UsbIo.showsStart_read.mpr ⟨1, by decide, hone⟩)) ⟨1, by decide, ?_⟩
    rw [hone, ← hfirst]
    exact List.mem_cons_self
  · refine ⟨0, [.ctrlRead mtFceDmaAddr mtVendReadCfg (dongle.ctrlRead
      (.ctrlRead mtFceDmaAddr mtVendReadCfg first :: log) mtFceDmaAddr mtVendReadCfg),
      .ctrlRead mtFceDmaAddr mtVendReadCfg first], ?_, by simp, ?_⟩
    · simp [fwStartPoll, mt76CtrlRead, hfirst, hwait]
    · rw [firmwareStarted_zero]
      simp only [List.mem_cons, List.not_mem_nil, or_false, exists_eq_or_imp, exists_eq_left,
        UsbIo.showsStart_read, Dongle.AnswersStart, Dongle.startAnswers, hfirst, and_or_left,
        exists_or]
      exact or_comm

/-- Once the boot command is out, the call returns after at most 401 reads of the start
register, and its return code tells whether the firmware started if and only if one
of the first two of them succeeds with a non-zero value. -/
theorem upload_reports_start_iff (dongle : Dongle) {forceReload : Bool} {fw : List UInt8}
    {rounds : Nat} {log booted : UsbLog}
    (hupload : fwUpload dongle forceReload fw rounds log = some (.booted booted)) :
    (∃ sent, booted = fwBoot dongle sent) ∧
      ∃ rc reads, mt76UploadFwDma dongle forceReload fw rounds log = some (rc, reads ++ booted) ∧
        reads.length ≤ 401 ∧ (FirmwareStarted rc reads ↔ dongle.AnswersStart booted) := by
  refine ⟨fwUpload_booted dongle hupload, ?_⟩
  obtain ⟨rc, reads, hpoll, hlength, hiff⟩ := fwStartPoll_started_iff dongle 399 booted
  exact ⟨rc, reads, by rw [mt76UploadFwDma, hupload]; exact congrArg some hpoll, hlength, hiff⟩

/-- A dongle that accepts every transfer but never starts its firmware: the start
register stays at 0. -/
def stillDongle : Dongle where
  ctrlRead _ addr _ := if addr = mtFceDmaLen then some 0xc0040000 else some 0
  ctrlWrite _ _ _ _ := true
  bulkOut _ _ _ := .success

/-- An image with four bytes of code and four of data. -/
def tinyImage : List UInt8 :=
  store32 4 ++ store32 4 ++ List.replicate 24 0 ++ List.replicate 8 0xea

theorem upload_reports_start_iff_still :
    ∃ booted, fwUpload stillDongle false tinyImage 1 [] = some (.booted booted) ∧
      ∃ rc reads, mt76UploadFwDma stillDongle false tinyImage 1 [] = some (rc, reads ++ booted) ∧
        (FirmwareStarted rc reads ↔ stillDongle.AnswersStart booted) := by
  have hbooted : ∃ booted, fwUpload stillDongle false tinyImage 1 [] = some (.booted booted) :=
    ⟨_, rfl⟩
  obtain ⟨booted, hupload⟩ := hbooted
  obtain ⟨-, rc, reads, hcall, -, hiff⟩ := upload_reports_start_iff stillDongle hupload
  exact ⟨booted, hupload, rc, reads, hcall, hiff⟩

/-- The upload to a dongle that never starts reports success. -/
theorem upload_reports_no_start :
    ∃ booted reads, fwUpload stillDongle false tinyImage 1 [] = some (.booted booted) ∧
      mt76UploadFwDma stillDongle false tinyImage 1 [] = some (0, reads ++ booted) ∧
      ¬FirmwareStarted 0 reads := by
  refine ⟨_, [.ctrlRead mtFceDmaAddr mtVendReadCfg (some 0),
    .ctrlRead mtFceDmaAddr mtVendReadCfg (some 0)], rfl, rfl, ?_⟩
  rw [firmwareStarted_zero]
  simp [UsbIo.ShowsStart]

end XoneDarwin
