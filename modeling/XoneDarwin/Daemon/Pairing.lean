import XoneDarwin.Daemon.Controls
import XoneDarwin.Daemon.Recovery

/-!
# Closing the pairing window

In single-pair mode the first contact over the data path turns pairing off. A
connect by a vendor action frame does not, and it leaves no first contact for the
data path; neither does a controller that is added again.
-/

namespace XoneDarwin

open Machine (run Always)

variable (world : World)

/-- Some slot is in use. -/
def Daemon.SomeActive (daemon : Daemon) : Prop :=
  ∃ s, (daemon.pads.slots s).active = true

/-- The dongle's button, in a transfer long enough to be looked at. -/
def Step.Button : Step → Prop
  | .transfer _ t => 8 ≤ t.bytes.length ∧ t.Button
  | .housekeeping _ _ => False

/-- Once a data frame of a controller that owns an active slot is handled, pairing is off as long
as some slot is active. -/
def PairingCloses (start : Daemon) (steps : List Step) : Prop :=
  ∀ before step during after frame, steps = before ++ step :: (during ++ after) →
    let arrived := run (Daemon.step world) start before
    let handled := run (Daemon.step world) start (before ++ [step])
    step.data? arrived.air.ourMac = some frame →
    arrived.Owns frame.src ∨ handled.Owns frame.src →
    Always (Daemon.step world) (fun daemon _ => daemon.SomeActive) handled during →
    (run (Daemon.step world) handled during).air.pairingBeaconEnabled = false

/-- A data frame of a controller whose slot is active, or that adds it again, is its first contact
or finds pairing off. -/
def Step.Closing (daemon : Daemon) (step : Step) : Prop :=
  ∀ frame, step.data? daemon.air.ourMac = some frame →
    daemon.Owns frame.src ∨
      (padOf? (daemon.table.entry frame.src)).isSome ∧
        frame.gipCommand? = some gipCmdCtrlAdded →
    daemon.FirstContact frame.src ∨ daemon.air.pairingBeaconEnabled = false

/-! ## Slots -/

theorem Daemon.someActive_iff (daemon : Daemon) :
    daemon.SomeActive ↔ activeSlotCount daemon.pads ≠ 0 := by
  rw [activeSlotCount, ← Nat.pos_iff_ne_zero, List.countP_pos_iff]
  simp only [Daemon.SomeActive, List.mem_finRange, true_and]

/-- If a data frame is not its sender's first contact, the sender owns an active slot before or
after it exactly if it owned one before or the frame adds it. -/
theorem owns_around_data {daemon : Daemon} (hwf : daemon.table.WF) (now : UInt64) {t : Transfer}
    {frame : RxFrame} (hframe : rxFrame? t = some frame) (hdata : frame.QosData daemon.air.ourMac)
    (hcontacted : ¬daemon.FirstContact frame.src) :
    daemon.Owns frame.src ∨ (handleTransfer world now t daemon).Owns frame.src ↔
      daemon.Owns frame.src ∨
        (padOf? (daemon.table.entry frame.src)).isSome ∧
          frame.gipCommand? = some gipCmdCtrlAdded := by
  obtain ⟨hslot, hpads⟩ := handleTransfer_data_slot world hwf now hframe hdata
  rw [← frame.gip_event.1]
  apply or_congr_right'
  intro hidle
  simp only [Daemon.Owns, hslot, hpads]
  constructor
  · intro howns
    obtain ⟨s, hpad, hactive⟩ := howns
    have hdone : ((daemon.table.register frame.src).peers
        (daemon.table.entry frame.src)).handshakeDone = true :=
      Bool.eq_true_of_not_eq_false fun hfirst =>
        hcontacted ⟨Option.isSome_of_eq_some hpad, hfirst⟩
    -- after a removal the slot is free, so the frame is no removal
    have hlost : frame.gip.event ≠ .pad .disconnect := by
      intro hlost
      rw [daemon.link.step_data_active hpad, hlost] at hactive
      cases hactive
    refine ⟨Option.isSome_of_eq_some hpad, ?_⟩
    apply ((step_data_active_iff daemon.link hpad hlost).mp hactive hdone).resolve_left
    intro hbefore
    exact hidle ⟨s, hwf.slotOf?_contacted hpad hdone, hbefore⟩
  · intro hadded
    obtain ⟨hpad, hevent⟩ := hadded
    obtain ⟨s, hpad⟩ := Option.isSome_iff_exists.mp hpad
    refine ⟨s, hpad, ?_⟩
    rw [daemon.link.step_data_active hpad, hevent]

/-! ## The flag -/

section

variable (hsingle : world.env.multiPairMode = false)

include hsingle

/-- A pass opens the window when no slot is in use, and does nothing otherwise. -/
theorem housekeeping_flag (daemon : Daemon) (now scanNow : UInt64) :
    (daemon.step world (.housekeeping now scanNow)).air.pairingBeaconEnabled =
      if activeSlotCount daemon.pads = 0 then true else daemon.air.pairingBeaconEnabled := by
  have henabled := (setPairingBeacon_controls world daemon.air true).2
  simp only [Daemon.step, housekeeping]
  split
  next hnone =>
    rw [hnone, pairingCheck_idle]
    split
    · exact henabled
    split
    · exact henabled
    · exact henabled
  next hsome => simp only [pairingCheck, if_neg hsome, hsingle, Bool.false_eq_true, if_false]

variable {daemon : Daemon} (hwf : daemon.table.WF) {step : Step}

include hwf

/-- A data frame closes the window as a first contact. -/
theorem data_flag {frame : RxFrame} (hframe : step.data? daemon.air.ourMac = some frame) :
    (daemon.step world step).air.pairingBeaconEnabled =
      if daemon.FirstContact frame.src then false else daemon.air.pairingBeaconEnabled := by
  cases step with
  | housekeeping now scanNow => cases hframe
  | transfer now t =>
      obtain ⟨hframe, hdata⟩ := Step.data?_transfer.mp hframe
      have hflag := (handleFrame_controls world daemon now frame hwf).flag hsingle
      simpa only [Daemon.step, handleTransfer_frame world now hframe,
        Daemon.closes_data hdata] using hflag

/-- Apart from the button no transfer opens the window. -/
theorem transfer_stays_closed {now : UInt64} {t : Transfer}
    (hbutton : ¬(Step.transfer now t).Button) (hclosed : daemon.air.pairingBeaconEnabled = false) :
    (daemon.step world (.transfer now t)).air.pairingBeaconEnabled = false := by
  cases hframe : rxFrame? t with
  | some frame =>
      have hflag := (handleFrame_controls world daemon now frame hwf).flag hsingle
      rw [Daemon.step, handleTransfer_frame world now hframe, hflag, hclosed, ite_self]
  | none =>
      simp only [Daemon.step, handleTransfer, hframe]
      split
      · exact hclosed
      next hlong =>
        rw [(handleEvent_controls world daemon t).2 hsingle
          fun hpressed => hbutton ⟨Nat.le_of_not_lt hlong, hpressed⟩]
        exact hclosed

/-- Neither does a pass while a slot is in use. -/
theorem step_stays_closed (hbutton : ¬step.Button) (hactive : daemon.SomeActive)
    (hclosed : daemon.air.pairingBeaconEnabled = false) :
    (daemon.step world step).air.pairingBeaconEnabled = false := by
  cases step with
  | transfer now t => exact transfer_stays_closed world hsingle hwf hbutton hclosed
  | housekeeping now scanNow =>
      rw [housekeeping_flag world hsingle, if_neg (daemon.someActive_iff.mp hactive)]
      exact hclosed

/-- What a step with a data frame has to meet to leave the window closed. -/
theorem data_closes_iff :
    (∀ frame, step.data? daemon.air.ourMac = some frame →
      daemon.Owns frame.src ∨ (daemon.step world step).Owns frame.src →
        (daemon.step world step).air.pairingBeaconEnabled = false) ↔ step.Closing daemon := by
  apply forall_congr'
  intro frame
  apply imp_congr_right
  intro hframe
  rw [data_flag world hsingle hwf hframe]
  by_cases hfirst : daemon.FirstContact frame.src
  · rw [if_pos hfirst]
    exact iff_of_true (fun _ => rfl) fun _ => Or.inl hfirst
  · rw [if_neg hfirst, or_iff_right hfirst]
    cases step with
    | housekeeping now scanNow => cases hframe
    | transfer now t =>
        obtain ⟨hframe, hdata⟩ := Step.data?_transfer.mp hframe
        exact imp_congr_left (owns_around_data world hwf now hframe hdata hfirst)

end

/-! ## Runs -/

/-- While pairing is on, a slot comes into use by a first data frame only. -/
def Step.ConnectsByData (daemon : Daemon) (step : Step) : Prop :=
  daemon.air.pairingBeaconEnabled = true → ∀ s, (daemon.pads.slots s).active = false →
    ((daemon.step world step).pads.slots s).active = true →
    ∃ frame, step.data? daemon.air.ourMac = some frame ∧ daemon.FirstContact frame.src

/-- Pairing is off while a slot is in use. -/
structure Daemon.Closed (daemon : Daemon) : Prop where
  wf : daemon.table.WF
  closed : daemon.SomeActive → daemon.air.pairingBeaconEnabled = false

section

variable (hsingle : world.env.multiPairMode = false) {daemon : Daemon} {step : Step}

include hsingle

/-- A slot in use finds the window closed if none was opened by another way. -/
theorem Daemon.Closed.next (hclosed : daemon.Closed) (hbutton : ¬step.Button)
    (hconnects : step.ConnectsByData world daemon) : (daemon.step world step).Closed := by
  obtain ⟨hwf, hoff⟩ := hclosed
  refine ⟨step_wf world hwf step, fun hactive => ?_⟩
  by_cases hbefore : daemon.SomeActive
  · exact step_stays_closed world hsingle hwf hbutton hbefore (hoff hbefore)
  obtain ⟨s, hs⟩ := hactive
  have hidle : (daemon.pads.slots s).active = false :=
    Bool.eq_false_of_not_eq_true fun hs => hbefore ⟨s, hs⟩
  cases step with
  | housekeeping now scanNow => exact absurd hs (Bool.eq_false_iff.mp hidle)
  | transfer now t =>
      cases hflag : daemon.air.pairingBeaconEnabled with
      | false => exact transfer_stays_closed world hsingle hwf hbutton hflag
      | true =>
          obtain ⟨frame, hframe, hfirst⟩ := hconnects hflag s hidle hs
          rw [data_flag world hsingle hwf hframe, if_pos hfirst]

omit hsingle in
theorem Daemon.Closed.closing (hclosed : daemon.Closed)
    (hconnects : step.ConnectsByData world daemon) : step.Closing daemon := by
  intro frame hframe howns
  cases hflag : daemon.air.pairingBeaconEnabled with
  | false => exact Or.inr rfl
  | true =>
      left
      have hnone (s : Fin maxSlots) : (daemon.pads.slots s).active = false := by
        refine Bool.eq_false_of_not_eq_true fun hs => ?_
        exact Bool.false_ne_true ((hclosed.closed ⟨s, hs⟩).symm.trans hflag)
      rcases howns with ⟨s, -, hs⟩ | ⟨hpad, hadded⟩
      · exact absurd hs (Bool.eq_false_iff.mp (hnone s))
      · -- the frame adds its sender again, which connects a slot
        obtain ⟨s, hpad⟩ := Option.isSome_iff_exists.mp hpad
        have hactive : ((daemon.step world step).pads.slots s).active = true := by
          have hlink := step_link world hclosed.wf step
          rw [Step.stimulus_data_iff.mpr ⟨frame, hframe, rfl, rfl⟩] at hlink
          have hpads := congrArg (fun link : Link => (link.pads s).active) hlink
          refine hpads.trans ?_
          rw [daemon.link.step_data_active hpad, frame.gip_event.1.mpr hadded]
        obtain ⟨sender, hsender, hfirst⟩ := hconnects hflag s (hnone s) hactive
        rw [hframe, Option.some.injEq] at hsender
        exact hsender ▸ hfirst

/-- Runs in which nothing else connects while pairing is on close. -/
theorem closing_of_connectsByData {boot : Daemon} (hboot : Boots world boot) {steps : List Step}
    (hbutton : ∀ step ∈ steps, ¬step.Button)
    (hconnects : Always (Daemon.step world) (fun daemon step => step.ConnectsByData world daemon)
      boot steps) :
    Always (Daemon.step world) (fun daemon step => step.Closing daemon) boot steps := by
  intro before step after hsplit
  have hsteps := hconnects.and_inputs hbutton
  rw [hsplit, Machine.always_append, Machine.always_cons] at hsteps
  obtain ⟨hbefore, ⟨hstep, -⟩, -⟩ := hsteps
  have hclosed : (run (Daemon.step world) boot before).Closed := by
    refine Machine.run_invariant_of_always Daemon.Closed ?_ ⟨boots_wf world hboot, ?_⟩ hbefore
    · intro daemon step hclosed hstep
      exact hclosed.next world hsingle hstep.2 hstep.1
    · intro hactive
      obtain ⟨s, hs⟩ := hactive
      rw [boots_slots world hboot] at hs
      cases hs
  exact hclosed.closing world hstep

end

/-- In single-pair mode, without the button, pairing closes if and only if every data frame of a
controller with an active slot is its first contact or finds pairing off. -/
theorem pairingCloses_iff {boot : Daemon} (hboot : Boots world boot)
    (hsingle : world.env.multiPairMode = false) {steps : List Step}
    (hbutton : ∀ step ∈ steps, ¬step.Button) :
    PairingCloses world boot steps ↔
      Always (Daemon.step world) (fun daemon step => step.Closing daemon) boot steps := by
  have hreached (before : List Step) : (run (Daemon.step world) boot before).table.WF :=
    Machine.run_invariant (fun daemon : Daemon => daemon.table.WF)
      (fun _ step hwf => step_wf world hwf step) (boots_wf world hboot) before
  constructor
  · intro hcloses before step after hsplit
    apply (data_closes_iff world hsingle (hreached before)).mp
    intro frame hframe howns
    rw [← Machine.run_concat (Daemon.step world)] at howns ⊢
    exact hcloses before step [] after frame hsplit hframe howns Machine.always_nil
  · intro hclosing before step during after frame hsplit arrived handled hframe howns hactive
    have hhandled : handled = arrived.step world step := Machine.run_concat _ boot before step
    have hclosed : handled.air.pairingBeaconEnabled = false := by
      rw [hhandled] at howns ⊢
      exact (data_closes_iff world hsingle (hreached before)).mpr
        (hclosing before step _ hsplit) frame hframe howns
    have hsteps := hactive.and_inputs fun next hnext => hbutton next (by
      rw [hsplit]
      exact List.mem_append_right _ (List.mem_cons_of_mem _ (List.mem_append_left _ hnext)))
    refine (Machine.run_invariant_of_always (fun daemon : Daemon =>
      daemon.table.WF ∧ daemon.air.pairingBeaconEnabled = false) ?_
      ⟨hreached _, hclosed⟩ hsteps).2
    intro daemon next hinv hnext
    exact ⟨step_wf world hinv.1 next,
      step_stays_closed world hsingle hinv.1 hnext.2 hnext.1 hinv.2⟩

/-- The controller connects by its vendor action frame. -/
def actionStep : Step :=
  .transfer 0 (wlanTransfer 0xd0 plainMac padMac [0x7f, 0x00, 0x17, 0xf2, 0x08] (by decide))

/-- It connects with its first packet, and a pass is made. -/
theorem pairingCloses_iff_input :
    PairingCloses (romWorld plainRom) plainBoot [inputStep, .housekeeping 3000 3000] ↔
      Always (Daemon.step (romWorld plainRom)) (fun daemon step => step.Closing daemon) plainBoot
        [inputStep, .housekeeping 3000 3000] := by
  apply pairingCloses_iff (romWorld plainRom) plainBoot_boots rfl
  intro step hstep hbutton
  rcases List.mem_cons.mp hstep with rfl | hpass
  · obtain ⟨-, htype, -⟩ := hbutton
    exact absurd htype (by decide +kernel)
  · rw [List.mem_singleton.mp hpass] at hbutton
    exact hbutton

/-- Connected by its action frame, it sends data and finds pairing on. -/
theorem action_leaves_pairing_on :
    (romWorld plainRom).env.multiPairMode = false ∧ Boots (romWorld plainRom) plainBoot ∧
      (∀ step ∈ [actionStep, inputStep], ¬step.Button) ∧
      ¬PairingCloses (romWorld plainRom) plainBoot [actionStep, inputStep] := by
  refine ⟨rfl, plainBoot_boots, ?_, fun hcloses => ?_⟩
  · intro step hstep hbutton
    rcases List.mem_cons.mp hstep with rfl | hinput
    · obtain ⟨-, htype, -⟩ := hbutton
      exact absurd htype (by decide +kernel)
    · rw [List.mem_singleton.mp hinput] at hbutton
      obtain ⟨-, htype, -⟩ := hbutton
      exact absurd htype (by decide +kernel)
  · have hmac : (run (Daemon.step (romWorld plainRom)) plainBoot [actionStep]).air.ourMac =
        plainMac := by decide +kernel
    have hslot : (run (Daemon.step (romWorld plainRom)) plainBoot
        [actionStep]).table.slotOf? padMac = some 0 := by decide +kernel
    have hactive : ((run (Daemon.step (romWorld plainRom)) plainBoot
        [actionStep]).pads.slots 0).active = true := by decide +kernel
    have hon : (run (Daemon.step (romWorld plainRom)) plainBoot
        [actionStep, inputStep]).air.pairingBeaconEnabled = true := by decide +kernel
    obtain ⟨frame, hframe, hdata, hsrc, -⟩ :=
      gipTransfer_data plainMac padMac inputPacket (by decide) (by decide)
    have hoff := hcloses [actionStep] inputStep [] [] frame rfl
      (Step.data?_transfer.mpr ⟨hframe, hmac ▸ hdata⟩) (Or.inl ⟨0, hsrc ▸ hslot, hactive⟩)
      Machine.always_nil
    exact Bool.false_ne_true (hoff.symm.trans hon)

end XoneDarwin
