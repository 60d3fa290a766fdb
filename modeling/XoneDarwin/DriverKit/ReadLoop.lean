import XoneDarwin.DriverKit.Driver

/-!
# The read loop of the driver

`ScheduleNextRead` and `HandleIncomingUSBData` on the two read buffers. DriverKit keeps the
reads it has taken; a completion belongs to the oldest of them and has filled its buffer.
-/

namespace XoneDarwin.DriverKit

open Machine (Always run)

/-- The arguments of `HandleIncomingUSBData` and the bytes the read has put into its buffer. The
creation of a virtual device, `SendPacket` and `AsyncIO`, if it comes to them, go as `outcome`,
`sending` and `asyncIo` say. -/
structure Completion where
  status : IoReturn
  actualByteCount : UInt32
  received : List UInt8
  outcome : HidOutcome
  sending : SendOutcome
  asyncIo : IoReturn

/-- A call of `ProcessGIPFrame` on a read buffer. `filled` is the buffer of the completed read,
`armed` are the reads DriverKit has at that moment. -/
structure ProcessedFrame where
  completion : Completion
  buffer : Fin 2
  bytes : List UInt8
  filled : Fin 2
  armed : List (Fin 2)

/-- The frame comes from the read that has completed, and no read may write into its buffer. -/
structure ProcessedFrame.Right (frame : ProcessedFrame) : Prop where
  buffer : frame.buffer = frame.filled
  unarmed : frame.armed = []
  bytes : frame.completion.actualByteCount.toNat ≤ frame.completion.received.length →
    frame.bytes = frame.completion.received.take frame.completion.actualByteCount.toNat

/-- The members of the read loop. `outstanding` lists the buffers of the reads DriverKit has,
oldest first, and `processed` the frames handed on, newest first. -/
structure ReadLoop where
  driver : Driver := {}
  mInBuffer : Fin 2 → List UInt8
  mInBufferIndex : UInt32 := 0
  outstanding : List (Fin 2) := []
  processed : List ProcessedFrame := []

/-- `index & 1`. -/
def inBuffer (index : UInt32) : Fin 2 :=
  ⟨(index &&& 1).toNat, Nat.lt_succ_of_le Nat.and_le_right⟩

namespace ReadLoop

/-- `ScheduleNextRead`: the index moves on before it is known whether the read is taken. -/
def scheduleNextRead (asyncIo : IoReturn) (loop : ReadLoop) : IoReturn × ReadLoop :=
  let buf := inBuffer loop.mInBufferIndex
  let counted := { loop with mInBufferIndex := loop.mInBufferIndex + 1 }
  if asyncIo = .success then (asyncIo, { counted with outstanding := loop.outstanding ++ [buf] })
  else (asyncIo, counted)

/-- The end of `Start`: without a first read the driver stops. -/
def start (asyncIo : IoReturn) (loop : ReadLoop) : Option ReadLoop :=
  let scheduled := loop.scheduleNextRead asyncIo
  if scheduled.1 ≠ .success then none else some scheduled.2

/-- The bytes of a read arrive in its buffer. -/
def fill (buffer : Fin 2) (received : List UInt8) (loop : ReadLoop) : ReadLoop :=
  let filled := received ++ (loop.mInBuffer buffer).drop received.length
  { loop with mInBuffer := Function.update loop.mInBuffer buffer filled }

section

variable (outside : Nat → ControllerSlot)

/-- `ProcessGIPFrame` on the buffer in front of the index. -/
def processFrame (filled : Fin 2) (completion : Completion) (loop : ReadLoop) : ReadLoop :=
  let buf := inBuffer (loop.mInBufferIndex - 1)
  let bytes := (loop.mInBuffer buf).take completion.actualByteCount.toNat
  { loop with
    driver := loop.driver.step outside ⟨bytes, completion.outcome, completion.sending⟩
    processed := ⟨completion, buf, bytes, filled, loop.outstanding⟩ :: loop.processed }

/-- `HandleIncomingUSBData`: nobody looks at what `ScheduleNextRead` returns. -/
def handleIncomingUsbData (filled : Fin 2) (completion : Completion) (loop : ReadLoop) : ReadLoop :=
  if completion.status = .aborted then loop
  else if completion.status ≠ .success then (loop.scheduleNextRead completion.asyncIo).2
  else
    let handled :=
      if completion.actualByteCount ≥ 4 then loop.processFrame outside filled completion else loop
    (handled.scheduleNextRead completion.asyncIo).2

/-- The oldest read completes and its completion is handled; without a read there is nothing to
complete. -/
def step (loop : ReadLoop) (completion : Completion) : ReadLoop :=
  match loop.outstanding with
  | [] => loop
  | filled :: rest =>
      ({ loop with outstanding := rest }.fill filled completion.received).handleIncomingUsbData
        outside filled completion

end

/-- Exactly one read is outstanding, and every frame so far was the right one. -/
structure OneRead (loop : ReadLoop) : Prop where
  one : loop.outstanding.length = 1
  frames : ∀ frame ∈ loop.processed, frame.Right

/-- At most one read is outstanding, and it goes to the buffer in front of the index. -/
structure Sound (loop : ReadLoop) : Prop where
  newest : loop.outstanding = [] ∨ loop.outstanding = [inBuffer (loop.mInBufferIndex - 1)]
  frames : ∀ frame ∈ loop.processed, frame.Right

/-! ## One completion -/

section

variable {loop : ReadLoop}

@[simp] theorem scheduleNextRead_processed (asyncIo : IoReturn) :
    (loop.scheduleNextRead asyncIo).2.processed = loop.processed := by
  unfold scheduleNextRead
  dsimp only
  split
  · rfl
  · rfl

@[simp] theorem scheduleNextRead_driver (asyncIo : IoReturn) :
    (loop.scheduleNextRead asyncIo).2.driver = loop.driver := by
  unfold scheduleNextRead
  dsimp only
  split
  · rfl
  · rfl

@[simp] theorem scheduleNextRead_index (asyncIo : IoReturn) :
    (loop.scheduleNextRead asyncIo).2.mInBufferIndex = loop.mInBufferIndex + 1 := by
  unfold scheduleNextRead
  dsimp only
  split
  · rfl
  · rfl

theorem scheduleNextRead_outstanding (asyncIo : IoReturn) (hnone : loop.outstanding = []) :
    (loop.scheduleNextRead asyncIo).2.outstanding =
      if asyncIo = .success then [inBuffer loop.mInBufferIndex] else [] := by
  unfold scheduleNextRead
  dsimp only
  split
  · rw [hnone, List.nil_append]
  · exact hnone

/-- Arming a read where there is none leaves one at most, whatever `AsyncIO` says. -/
theorem scheduleNextRead_sound (asyncIo : IoReturn) (hnone : loop.outstanding = [])
    (hframes : ∀ frame ∈ loop.processed, frame.Right) :
    (loop.scheduleNextRead asyncIo).2.Sound := by
  constructor
  · rw [scheduleNextRead_outstanding asyncIo hnone, scheduleNextRead_index, UInt32.add_sub_cancel]
    split
    · exact Or.inr rfl
    · exact Or.inl rfl
  · rw [scheduleNextRead_processed]
    exact hframes

variable (outside : Nat → ControllerSlot)

/-- The frame handed on once the newest read has filled its buffer. -/
theorem processFrame_right (completion : Completion) (hnone : loop.outstanding = [])
    (hframes : ∀ frame ∈ loop.processed, frame.Right) :
    ∀ frame ∈ ((loop.fill (inBuffer (loop.mInBufferIndex - 1))
      completion.received).processFrame outside (inBuffer (loop.mInBufferIndex - 1))
        completion).processed, frame.Right := by
  intro frame hframe
  rcases List.mem_cons.mp hframe with rfl | hearlier
  · refine ⟨rfl, hnone, fun hcount => ?_⟩
    simp only [fill, Function.update_self]
    exact List.take_append_of_le_length hcount
  · exact hframes frame hearlier

/-- With its one read completed the driver has none, until it arms the next. -/
theorem step_armed (hone : loop.outstanding = [inBuffer (loop.mInBufferIndex - 1)])
    (hframes : ∀ frame ∈ loop.processed, frame.Right) {completion : Completion}
    (hrunning : completion.status ≠ .aborted) :
    ∃ handled : ReadLoop, handled.outstanding = [] ∧
      (∀ frame ∈ handled.processed, frame.Right) ∧
      loop.step outside completion = (handled.scheduleNextRead completion.asyncIo).2 := by
  unfold step
  simp only [hone]
  unfold handleIncomingUsbData
  rw [if_neg hrunning]
  by_cases hstatus : completion.status = .success
  · rw [if_neg (not_not_intro hstatus)]
    split
    · refine ⟨_, rfl, ?_, rfl⟩
      exact processFrame_right outside completion rfl hframes
    · refine ⟨_, rfl, ?_, rfl⟩
      exact hframes
  · rw [if_pos hstatus]
    refine ⟨_, rfl, ?_, rfl⟩
    exact hframes

/-- No completion, whatever its status and however `AsyncIO` goes, leaves two reads behind. -/
theorem step_sound (hsound : loop.Sound) (completion : Completion) :
    (loop.step outside completion).Sound := by
  rcases hsound.newest with hnone | hone
  · unfold step
    simp only [hnone]
    exact hsound
  · by_cases hrunning : completion.status = .aborted
    · unfold step
      simp only [hone]
      unfold handleIncomingUsbData
      rw [if_pos hrunning]
      exact ⟨Or.inl rfl, hsound.frames⟩
    · obtain ⟨handled, hnone, hframes, hstep⟩ := step_armed outside hone hsound.frames hrunning
      rw [hstep]
      exact scheduleNextRead_sound completion.asyncIo hnone hframes

/-- The next read is outstanding exactly if `AsyncIO` took it. -/
theorem step_one_iff (hsound : loop.Sound) (hone : loop.outstanding.length = 1)
    {completion : Completion} (hrunning : completion.status ≠ .aborted) :
    (loop.step outside completion).outstanding.length = 1 ↔ completion.asyncIo = .success := by
  have hread : loop.outstanding = [inBuffer (loop.mInBufferIndex - 1)] :=
    hsound.newest.resolve_left fun hnone => by rw [hnone] at hone; cases hone
  obtain ⟨handled, hnone, -, hstep⟩ := step_armed outside hread hsound.frames hrunning
  rw [hstep, scheduleNextRead_outstanding completion.asyncIo hnone]
  split
  next hsuccess => exact iff_of_true rfl hsuccess
  next hfailed => exact iff_of_false (by decide) hfailed

end

/-! ## Runs -/

section

variable (outside : Nat → ControllerSlot)

/-- Whatever completes and however `AsyncIO` goes: at most one read is outstanding, and every
frame is the one that was just read. -/
theorem run_sound {start : ReadLoop} (hstart : start.Sound) (completions : List Completion) :
    (run (step outside) start completions).Sound :=
  Machine.run_invariant Sound (fun _ completion hsound => step_sound outside hsound completion)
    hstart completions

theorem start_eq_some {asyncIo : IoReturn} {initial loop : ReadLoop}
    (hstart : initial.start asyncIo = some loop) :
    asyncIo = .success ∧ loop = (initial.scheduleNextRead asyncIo).2 := by
  unfold start at hstart
  dsimp only at hstart
  split at hstart
  · cases hstart
  next htaken =>
    refine ⟨?_, (Option.some.inj hstart).symm⟩
    by_contra hfailed
    refine htaken ?_
    rw [scheduleNextRead, if_neg hfailed]
    exact hfailed

/-- A successful `Start` leaves exactly one read outstanding. -/
theorem start_armed {asyncIo : IoReturn} {memory : Fin 2 → List UInt8} {loop : ReadLoop}
    (hstart : start asyncIo { mInBuffer := memory } = some loop) :
    loop.Sound ∧ loop.outstanding.length = 1 := by
  obtain ⟨hsuccess, rfl⟩ := start_eq_some hstart
  refine ⟨scheduleNextRead_sound asyncIo rfl (by simp), ?_⟩
  rw [scheduleNextRead_outstanding asyncIo rfl, if_pos hsuccess]
  rfl

/-- As long as no completion is aborted, every moment between two of them finds exactly one read
outstanding precisely if `AsyncIO` took every read. -/
theorem oneRead_iff_taken {asyncIo : IoReturn} {memory : Fin 2 → List UInt8} {loop : ReadLoop}
    (hstart : start asyncIo { mInBuffer := memory } = some loop) {completions : List Completion}
    (hrunning : ∀ completion ∈ completions, completion.status ≠ .aborted) :
    (∀ before, before <+: completions → (run (step outside) loop before).OneRead) ↔
      ∀ completion ∈ completions, completion.asyncIo = .success := by
  obtain ⟨hsound, hone⟩ := start_armed hstart
  rw [← Machine.always_inputs_iff]
  refine Machine.forall_prefix_iff_always OneRead
    (fun state => state.Sound ∧ state.outstanding.length = 1)
    (fun state hstate => ⟨hstate.2, hstate.1.frames⟩) ?_ ?_ ⟨hsound, hone⟩
  · intro state completion hmem hstate htaken
    refine ⟨step_sound outside hstate.1 completion, ?_⟩
    exact (step_one_iff outside hstate.1 hstate.2 (hrunning completion hmem)).mpr htaken
  · intro state completion hmem hstate hgood
    exact (step_one_iff outside hstate.1 hstate.2 (hrunning completion hmem)).mp hgood.one

/-- A handled frame whose next read is refused: the loop is left without any. -/
theorem oneRead_lost :
    ∃ loop, start .success { mInBuffer := fun _ => List.replicate 64 0 } = some loop ∧
      ¬(run (step fun _ => {}) loop [{
        status := .success
        actualByteCount := 4
        received := [0x03, 0x00, 0x01, 0x00]
        outcome := ⟨true, true, true⟩
        sending := .transfer .success
        asyncIo := .error 0xe00002d8 }]).OneRead := by
  refine ⟨_, rfl, fun hone => ?_⟩
  have hnone := hone.one
  revert hnone
  decide

/-- The same frame with the next read taken. -/
theorem oneRead_kept : ∃ loop,
    start .success { mInBuffer := fun _ => List.replicate 64 0 } = some loop ∧
      ∀ before, before <+: [({
        status := .success
        actualByteCount := 4
        received := [0x03, 0x00, 0x01, 0x00]
        outcome := ⟨true, true, true⟩
        sending := .transfer .success
        asyncIo := .success } : Completion)] →
        (run (step fun _ => {}) loop before).OneRead := by
  have hstart : start .success { mInBuffer := fun _ => List.replicate 64 0 } =
      some (scheduleNextRead .success { mInBuffer := fun _ => List.replicate 64 0 }).2 := rfl
  exact ⟨_, hstart, (oneRead_iff_taken (fun _ => {}) hstart (by decide)).mpr (by decide)⟩

/-- Nothing brings the loop back: no completion comes any more. -/
theorem run_stopped {loop : ReadLoop} (hnone : loop.outstanding = [])
    (completions : List Completion) : run (step outside) loop completions = loop := by
  refine @Machine.run_invariant _ _ (step outside) (· = loop) ?_ loop rfl completions
  rintro _ completion rfl
  unfold step
  simp only [hnone]

/-! ## The frames of the handlers -/

/-- The frames handed on so far, as steps of the driver. -/
def handed (loop : ReadLoop) : List Driver.Step :=
  loop.processed.reverse.map fun frame =>
    ⟨frame.bytes, frame.completion.outcome, frame.completion.sending⟩

/-- The handlers have seen the frames handed on, in that order and nothing else. -/
def Follows (loop : ReadLoop) : Prop :=
  loop.driver = run (Driver.step outside) {} loop.handed

variable {outside}

theorem processFrame_follows {loop : ReadLoop} (hloop : loop.Follows outside) (filled : Fin 2)
    (completion : Completion) : (loop.processFrame outside filled completion).Follows outside := by
  unfold Follows handed at hloop ⊢
  simp only [processFrame, List.reverse_cons, List.map_append, List.map_cons, List.map_nil,
    Machine.run_concat]
  rw [← hloop]

theorem scheduleNextRead_follows {loop : ReadLoop} (hloop : loop.Follows outside)
    (asyncIo : IoReturn) : (loop.scheduleNextRead asyncIo).2.Follows outside := by
  unfold Follows handed
  rw [scheduleNextRead_driver, scheduleNextRead_processed]
  exact hloop

theorem step_follows {loop : ReadLoop} (hloop : loop.Follows outside) (completion : Completion) :
    (loop.step outside completion).Follows outside := by
  unfold step
  split
  · exact hloop
  next filled rest houtstanding =>
    have hfilled : ({ loop with outstanding := rest }.fill filled
        completion.received).Follows outside := hloop
    unfold handleIncomingUsbData
    split
    · exact hfilled
    · split
      · exact scheduleNextRead_follows hfilled completion.asyncIo
      · dsimp only
        split
        · exact scheduleNextRead_follows (processFrame_follows hfilled filled completion) _
        · exact scheduleNextRead_follows hfilled completion.asyncIo

/-- From `Start` on, the read loop runs the driver on the frames it reads. -/
theorem run_follows {asyncIo : IoReturn} {memory : Fin 2 → List UInt8} {loop : ReadLoop}
    (hstart : start asyncIo { mInBuffer := memory } = some loop) (completions : List Completion) :
    (run (step outside) loop completions).Follows outside := by
  obtain ⟨-, rfl⟩ := start_eq_some hstart
  have hinitial : Follows outside { mInBuffer := memory } := rfl
  exact Machine.run_invariant (Follows outside)
    (fun _ completion hloop => step_follows hloop completion)
    (scheduleNextRead_follows hinitial asyncIo) completions

end

end ReadLoop

end XoneDarwin.DriverKit
