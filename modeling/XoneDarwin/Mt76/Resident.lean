import XoneDarwin.Machine.Run
import XoneDarwin.Mt76.Firmware

/-!
# Is the firmware resident?

`mt76_upload_fw_dma` takes a non-zero `MT_FCE_DMA_ADDR` for firmware that runs. The
uploads write the addresses of their chunks to the same register and clear it only
in front of the boot command, so an upload that is broken off leaves the evidence
for firmware that never ran.
-/

namespace XoneDarwin

open Machine (run Always Emits)

/-! ## The register -/

/-- The value an entry leaves in `MT_FCE_DMA_ADDR`. -/
def UsbIo.dmaAddr? : UsbIo → Option UInt32
  | .ctrlWrite addr val req ok =>
      if addr = mtFceDmaAddr ∧ req = mtVendWriteCfg ∧ ok then some val else none
  | _ => none

/-- The value the host wrote last, on a device that started with 0. -/
def dmaAddr (log : UsbLog) : UInt32 :=
  (log.findSome? UsbIo.dmaAddr?).getD 0

/-- The boot command. -/
def UsbIo.IsBoot (io : UsbIo) : Prop :=
  ∃ ok, io = .ctrlWrite mtFwLoadIvb 0 mtVendDevMode ok

/-- Until firmware is booted the register reads back what the host wrote last. -/
def Dongle.KeepsDmaAddr (dongle : Dongle) : Prop :=
  ∀ log, (∀ io ∈ log, ¬io.IsBoot) →
    dongle.ctrlRead log mtFceDmaAddr mtVendReadCfg = some (dmaAddr log)

theorem UsbIo.Uploading.not_boot {io : UsbIo} (hio : io.Uploading) : ¬io.IsBoot := by
  intro hboot
  obtain ⟨ok, rfl⟩ := hboot
  exact hio rfl

/-! ## Calls in sequence -/

/-- A call without `XBOX_FW_FORCE_RELOAD`. -/
structure UploadCall where
  fw : List UInt8
  /-- iterations after which an upload loop that does not end is given up on -/
  rounds : Nat

/-- The image passes the size checks. -/
def UploadCall.Accepted (call : UploadCall) : Prop :=
  32 ≤ call.fw.length ∧ (32 + load32 call.fw + load32 (call.fw.drop 4)).toNat ≤ call.fw.length

/-- The device and what became of the calls so far. -/
structure Uploads where
  log : UsbLog := []
  /-- a call has sent all chunks and issued the boot command -/
  booted : Bool := false
  /-- a call has failed and left a chunk address in the register -/
  brokenOff : Bool := false

variable (dongle : Dongle)

/-- The upload stage of the next call. -/
def Uploads.stage (uploads : Uploads) (call : UploadCall) : Option FwStage :=
  fwUpload dongle false call.fw call.rounds uploads.log

def Uploads.after (uploads : Uploads) : FwStage → Uploads
  | .returned rc log =>
      { uploads with
        log := log
        brokenOff := uploads.brokenOff || (rc != 0 && dmaAddr log != 0) }
  | .booted log => { uploads with log := (fwStartPoll dongle 400 log).2, booted := true }

/-- One call; `none` from the first call on that does not return. -/
def Uploads.call (uploads : Option Uploads) (call : UploadCall) : Option Uploads :=
  uploads.bind fun uploads => (uploads.stage dongle call).map (uploads.after dongle)

/-- The calls are those of `mt76_upload_fw_dma`. -/
theorem Uploads.call_log (uploads : Uploads) (call : UploadCall) :
    (Uploads.call dongle (some uploads) call).map Uploads.log =
      (mt76UploadFwDma dongle false call.fw call.rounds uploads.log).map Prod.snd := by
  simp only [Uploads.call, Uploads.stage, mt76UploadFwDma, Option.bind_some, Option.map_map]
  cases fwUpload dongle false call.fw call.rounds uploads.log with
  | none => rfl
  | some stage => cases stage <;> rfl

/-- A call that returns 0 through the already-loaded branch comes after one that booted. -/
def ResidentBooted (uploads : Option Uploads) (call : UploadCall) : Prop :=
  ∀ now, uploads = some now → (∃ log, now.stage dongle call = some (.returned 0 log)) →
    now.booted = true

/-- No image is uploaded after a call that was broken off, unless one has booted. -/
def NotAfterBreak (uploads : Option Uploads) (call : UploadCall) : Prop :=
  ∀ now, uploads = some now → call.Accepted → now.brokenOff = true → now.booted = true

/-! ## What a call finds and leaves -/

section

variable {call : UploadCall} {uploads : Uploads}

theorem Uploads.stage_refused (hrefused : ¬call.Accepted) :
    uploads.stage dongle call = some (.returned (-1) uploads.log) := by
  simp only [Uploads.stage, fwUpload]
  split
  · rfl
  · split
    · rfl
    next hlong hfits => exact absurd ⟨Nat.not_lt.mp hlong, Nat.not_lt.mp hfits⟩ hrefused

theorem Uploads.stage_accepted (haccepted : call.Accepted) :
    uploads.stage dongle call =
      if (mt76CtrlRead dongle mtFceDmaAddr mtVendReadCfg uploads.log).1 ≠ 0 then
        some (.returned 0 (mt76CtrlRead dongle mtFceDmaAddr mtVendReadCfg uploads.log).2)
      else
        fwTransfer dongle call.fw call.rounds (fwDmaSetup dongle
          (mt76CtrlRead dongle mtFceDmaAddr mtVendReadCfg uploads.log).2) := by
  obtain ⟨hlong, hfits⟩ := haccepted
  simp only [Uploads.stage, fwUpload, if_neg (Nat.not_lt.mpr hlong), if_neg (Nat.not_lt.mpr hfits),
    Bool.false_eq_true, if_false]

/-- The state before firmware has been booted. -/
structure Uploads.Unbooted (uploads : Uploads) : Prop where
  unbooted : ∀ io ∈ uploads.log, ¬io.IsBoot
  /-- the register is not 0 exactly if a call was broken off -/
  register : dmaAddr uploads.log ≠ 0 ↔ uploads.brokenOff = true

/-- The invariant of a sequence of calls. -/
def Uploads.Sound (uploads : Option Uploads) : Prop :=
  ∀ now, uploads = some now → now.booted = false → now.Unbooted

theorem Uploads.Unbooted.read (hunbooted : uploads.Unbooted) (hkeeps : dongle.KeepsDmaAddr) :
    (mt76CtrlRead dongle mtFceDmaAddr mtVendReadCfg uploads.log).1 = dmaAddr uploads.log := by
  simp only [mt76CtrlRead, hkeeps uploads.log hunbooted.unbooted, Option.getD_some]

/-- On a device without firmware the already-loaded branch is taken exactly after a call that
was broken off. -/
theorem Uploads.Unbooted.resident_iff (hunbooted : uploads.Unbooted)
    (hkeeps : dongle.KeepsDmaAddr) :
    (∃ log, uploads.stage dongle call = some (.returned 0 log)) ↔
      call.Accepted ∧ uploads.brokenOff = true := by
  by_cases haccepted : call.Accepted
  · rw [Uploads.stage_accepted dongle haccepted, hunbooted.read dongle hkeeps,
      ← hunbooted.register]
    split
    next hset => exact iff_of_true ⟨_, rfl⟩ ⟨haccepted, hset⟩
    next hclear =>
      refine iff_of_false (fun hresident => ?_) fun hboth => hclear hboth.2
      -- an upload that is broken off returns -1
      obtain ⟨log, hlog⟩ := hresident
      obtain ⟨sent, -, hstage | hstage⟩ := fwTransfer_uploading dongle hlog
      · cases hstage
      · cases hstage
  · rw [Uploads.stage_refused dongle haccepted]
    apply iff_of_false
    · intro hresident
      obtain ⟨log, hlog⟩ := hresident
      cases hlog
    · exact fun hboth => haccepted hboth.1

/-- A call that does not boot leaves no boot command, and records whether it was broken off. -/
theorem Uploads.Unbooted.after {rc : Int} {log : UsbLog} (hunbooted : uploads.Unbooted)
    (hkeeps : dongle.KeepsDmaAddr) (hstage : uploads.stage dongle call = some (.returned rc log)) :
    (uploads.after dongle (.returned rc log)).Unbooted := by
  have hregister := hunbooted.register
  by_cases haccepted : call.Accepted
  · rw [Uploads.stage_accepted dongle haccepted, hunbooted.read dongle hkeeps] at hstage
    have hread : Emits UsbIo.Uploading uploads.log
        (mt76CtrlRead dongle mtFceDmaAddr mtVendReadCfg uploads.log).2 := Emits.one trivial
    split at hstage
    next hset =>
      -- the already-loaded branch reads and returns
      cases hstage
      refine ⟨(hread.mono fun _ hio => hio.not_boot).forall_mem hunbooted.unbooted, ?_⟩
      simp only [Uploads.after, bne_self_eq_false, Bool.false_and, Bool.or_false]
      exact hregister
    next hclear =>
      obtain ⟨sent, hemits, hreturned⟩ := fwTransfer_uploading dongle hstage
      obtain ⟨rfl, rfl⟩ : rc = -1 ∧ log = sent := by
        rcases hreturned with hreturned | hreturned
        · cases hreturned
          exact ⟨rfl, rfl⟩
        · cases hreturned
      have hfresh : uploads.brokenOff = false :=
        Bool.eq_false_iff.mpr fun hbroken => hclear (hregister.mpr hbroken)
      have hall := (hread.trans (fwDmaSetup_uploading dongle _)).trans hemits
      refine ⟨(hall.mono fun _ hio => hio.not_boot).forall_mem hunbooted.unbooted, ?_⟩
      simp [Uploads.after, hfresh]
  · rw [Uploads.stage_refused dongle haccepted] at hstage
    cases hstage
    refine ⟨hunbooted.unbooted, ?_⟩
    simp only [Uploads.after, Bool.or_eq_true, Bool.and_eq_true, bne_iff_ne]
    exact ⟨fun hset => Or.inl (hregister.mp hset),
      fun hbroken => hbroken.elim hregister.mpr fun hfailed => hfailed.2⟩

theorem Uploads.Sound.next {before : Option Uploads} (hkeeps : dongle.KeepsDmaAddr)
    (hsound : Uploads.Sound before) : Uploads.Sound (Uploads.call dongle before call) := by
  intro next hnext hunbooted
  obtain ⟨now, hnow, hmap⟩ := Option.bind_eq_some_iff.mp hnext
  obtain ⟨stage, hstage, rfl⟩ := Option.map_eq_some_iff.mp hmap
  cases stage with
  | booted log => cases hunbooted
  | returned rc log => exact (hsound now hnow hunbooted).after dongle hkeeps hstage

end

/-! ## Sequences of calls -/

/-- On a device whose register starts at 0, every return through the already-loaded branch of a
sequence of calls comes after a call that booted if and only if no image is uploaded after a
call that was broken off before one has booted. -/
theorem resident_booted_iff (hkeeps : dongle.KeepsDmaAddr) (calls : List UploadCall) :
    Always (Uploads.call dongle) (ResidentBooted dongle) (some {}) calls ↔
      Always (Uploads.call dongle) NotAfterBreak (some {}) calls := by
  refine Machine.always_congr Uploads.Sound
    (fun _ _ hsound => hsound.next dongle hkeeps) ?_ ?_ calls
  · intro uploads call hsound
    refine forall_congr' fun now => forall_congr' fun hnow => ?_
    cases hbooted : now.booted with
    | true => exact iff_of_true (fun _ => rfl) fun _ _ => rfl
    | false =>
        rw [(hsound now hnow hbooted).resident_iff dongle hkeeps]
        exact and_imp
  · intro now hnow _
    cases hnow
    exact ⟨fun io hio => absurd hio List.not_mem_nil, by decide⟩

/-- A dongle whose first bulk transfer fails. -/
def flakyDongle : Dongle where
  ctrlRead log addr _ :=
    if addr = mtFceDmaAddr then some (dmaAddr log) else some 0xc0040000
  ctrlWrite _ _ _ _ := true
  bulkOut log _ _ :=
    if log.any fun io => match io with | .bulkOut .. => true | _ => false then .success else .io

theorem flakyDongle_keeps : flakyDongle.KeepsDmaAddr := by
  intro log _
  simp only [flakyDongle, if_true]

/-- The upload of the small image. -/
def tinyCall : UploadCall := ⟨tinyImage, 1⟩

theorem resident_booted_iff_flaky :
    Always (Uploads.call flakyDongle) (ResidentBooted flakyDongle) (some {}) [tinyCall, tinyCall] ↔
      Always (Uploads.call flakyDongle) NotAfterBreak (some {}) [tinyCall, tinyCall] :=
  resident_booted_iff flakyDongle flakyDongle_keeps [tinyCall, tinyCall]

/-- The second call reuses firmware of which the first call did not transfer a byte. -/
theorem broken_off_taken_for_resident :
    flakyDongle.KeepsDmaAddr ∧
      ¬Always (Uploads.call flakyDongle) (ResidentBooted flakyDongle) (some {})
        [tinyCall, tinyCall] := by
  refine ⟨flakyDongle_keeps, fun halways => ?_⟩
  have hsecond := halways [tinyCall] tinyCall [] rfl
  have hbooted := hsecond _ rfl ⟨_, rfl⟩
  cases hbooted

end XoneDarwin
