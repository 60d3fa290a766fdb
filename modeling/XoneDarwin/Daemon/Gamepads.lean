import XoneDarwin.Daemon.Reports
import XoneDarwin.Machine.Traces

/-!
# The life of a virtual gamepad

Every call to the HID interface is made for one slot. A slot's gamepad is created once,
with the fallback descriptor only after the primary one was refused, gets reports only
while it exists, and is released once: by the disconnect, or when the daemon exits.
-/

namespace XoneDarwin

open Machine (accept callsOf emitted fresh run)

/-- Where the gamepad of a slot is. -/
inductive GamepadPhase
  | absent
  /-- the host refused the primary descriptor -/
  | refused
  /-- created, with the report that was posted last, if any was -/
  | present (last : Option HidReport)

/-- What may be called for a slot. -/
def GamepadPhase.next (s : Fin maxSlots) : GamepadPhase → HidIo → Option GamepadPhase
  | .absent, .create slot .primary ok =>
      if slot = UInt8.ofNat s then some (if ok then .present none else .refused) else none
  | .refused, .create slot .fallback ok =>
      if slot = UInt8.ofNat s then some (if ok then .present none else .absent) else none
  | .present _, .report report => some (.present (some report))
  | .present _, .release => some .absent
  | _, _ => none

/-- The report of a slot that has had no input: only the guide button may be in it. -/
def idleReport (guidePressed : Bool) : HidReport :=
  ({} : HidReport).withGuide guidePressed

theorem idleReport_withGuide (before pressed : Bool) :
    (idleReport before).withGuide pressed = idleReport pressed := by
  cases before <;> cases pressed <;> rfl

/-- The phase goes with what the slot holds: the report posted last, or before the first one the
report it had without a controller, with the hat centred. -/
def Slot.InPhase (slot : Slot) : GamepadPhase → Prop
  | .absent => slot.hidDevice = false ∧
      (slot.active = false → slot.lastReport = idleReport slot.guidePressed)
  | .refused => False
  | .present last => slot.hidDevice = true ∧ slot.active = true ∧
      slot.lastReport = last.getD { idleReport slot.guidePressed with hat := 8 }

/-- Some calls are made for a slot, and they lead to a phase that goes with what the slot becomes. -/
def Pads.Calls (before after : Pads) (s : Fin maxSlots) : Prop :=
  ∃ slot calls, after.slots = (before.setSlot s slot).slots ∧ after.hid = calls ++ before.hid ∧
    ∀ phase, (before.slots s).InPhase phase →
      ∃ later, accept (GamepadPhase.next s) phase calls.reverse = some later ∧ slot.InPhase later

section

variable (host : Host) (eventUdp : Bool) {pads : Pads}

/-! ## The handlers -/

theorem calls_none (s : Fin maxSlots) : pads.Calls pads s := by
  refine ⟨pads.slots s, [], ?_, rfl, fun phase hphase => ⟨phase, rfl, hphase⟩⟩
  simp [Pads.setSlot]

/-- A slot without a gamepad gets one if the host takes one of the two descriptors. -/
theorem createVirtualGamepad_calls (pads : Pads) (s : Fin maxSlots) :
    ∃ calls, (createVirtualGamepad host (UInt8.ofNat s) pads).2.hid = calls ++ pads.hid ∧
      accept (GamepadPhase.next s) .absent calls.reverse =
        some (if (createVirtualGamepad host (UInt8.ofNat s) pads).1 then .present none
          else .absent) := by
  unfold createVirtualGamepad
  split
  · by_cases hprimary : host.create pads.hid (UInt8.ofNat s) .primary = true
    · simp only [makeHidDevice, hprimary, if_true]
      exact ⟨[.create (UInt8.ofNat s) .primary true], rfl, by simp [GamepadPhase.next]⟩
    · simp only [makeHidDevice, Bool.eq_false_of_not_eq_true hprimary, Bool.false_eq_true, if_false]
      generalize host.create _ (UInt8.ofNat s) .fallback = ok
      exact ⟨[.create (UInt8.ofNat s) .fallback ok, .create (UInt8.ofNat s) .primary false], rfl,
        by simp [GamepadPhase.next]⟩
  · exact ⟨[], rfl, rfl⟩

/-- A slot changes its report and posts it. -/
theorem post_calls (s : Fin maxSlots) (slot : Slot)
    (hdevice : slot.hidDevice = (pads.slots s).hidDevice)
    (hactive : slot.active = (pads.slots s).active)
    (hidle : (pads.slots s).InPhase .absent → slot.InPhase .absent) (message : List Char) :
    pads.Calls (eventUdpSend eventUdp message (postHidReport s (pads.setSlot s slot))) s := by
  refine ⟨slot, if slot.hidDevice then [.report slot.lastReport] else [],
    post_slots eventUdp message s slot, ?_, ?_⟩
  · rw [eventUdpSend_hid]
    simp only [postHidReport, Pads.setSlot, Function.update_self]
    split <;> rfl
  · intro phase hphase
    cases phase with
    | absent =>
        rw [(hidle hphase).1]
        exact ⟨.absent, rfl, hidle hphase⟩
    | refused => exact hphase.elim
    | present last =>
        have hsome : slot.hidDevice = true := hdevice.trans hphase.1
        rw [hsome]
        exact ⟨.present (some slot.lastReport), rfl, hsome, hactive.trans hphase.2.1, rfl⟩

theorem handle_calls (hsettled : pads.Settled) (s : Fin maxSlots) (event : PadEvent) :
    pads.Calls (pads.handle host eventUdp (s, event)) s := by
  cases event with
  | connect =>
      simp only [Pads.handle, onConnect, slotIdx?_ofNat]
      split
      · exact calls_none s
      next hinactive =>
        have hidle := (hsettled.idle s (Bool.eq_false_of_not_eq_true hinactive)).2
        obtain ⟨calls, hhid, haccept⟩ := createVirtualGamepad_calls host pads s
        refine ⟨{ pads.slots s with
          active := true
          clientId := UInt8.ofNat s
          lastReport := { (pads.slots s).lastReport with hat := 8 }
          hidDevice := (createVirtualGamepad host (UInt8.ofNat s) pads).1 }, calls, ?_, ?_,
          fun phase hphase => ?_⟩
        · rw [eventUdpSend_slots]
          simp only [Pads.setSlot, createVirtualGamepad_slots]
        · rw [eventUdpSend_hid]
          exact hhid
        · cases phase with
          | absent =>
              refine ⟨_, haccept, ?_⟩
              have hreport := hphase.2 (Bool.eq_false_of_not_eq_true hinactive)
              cases hcreated : (createVirtualGamepad host (UInt8.ofNat s) pads).1 with
              | true => exact ⟨rfl, rfl, by rw [hreport]; rfl⟩
              | false => exact ⟨rfl, fun hidle => absurd hidle.symm Bool.false_ne_true⟩
          | refused => exact hphase.elim
          | present last => exact absurd (hidle.symm.trans hphase.1) Bool.false_ne_true
  | disconnect =>
      simp only [Pads.handle, onDisconnect, slotIdx?_ofNat]
      split
      · refine ⟨{}, if (pads.slots s).hidDevice then [.release] else [], ?_, ?_,
          fun phase hphase => ?_⟩
        · rw [eventUdpSend_slots]
          simp only [Pads.setSlot]
          split <;> rfl
        · rw [eventUdpSend_hid]
          simp only [Pads.setSlot]
          split <;> rfl
        · have hcleared : ({} : Slot).InPhase .absent := ⟨rfl, fun _ => rfl⟩
          cases phase with
          | absent =>
              rw [hphase.1]
              exact ⟨.absent, rfl, hcleared⟩
          | refused => exact hphase.elim
          | present last =>
              rw [hphase.1]
              exact ⟨.absent, rfl, hcleared⟩
      · exact calls_none s
  | input g =>
      simp only [Pads.handle, reportInput]
      split
      next hactive =>
        refine post_calls eventUdp s { pads.slots s with
          lastReport := gipToHid g (pads.slots s).guidePressed } (by rfl) (by rfl)
          (fun hphase => ⟨hphase.1, fun hidle => ?_⟩) _
        exact absurd (hidle.symm.trans hactive) Bool.false_ne_true
      · exact calls_none s
  | guide pressed =>
      simp only [Pads.handle, onGuide, slotIdx?_ofNat]
      refine post_calls eventUdp s { pads.slots s with
        guidePressed := pressed
        lastReport := (pads.slots s).lastReport.withGuide pressed } (by rfl) (by rfl)
        (fun hphase => ⟨hphase.1, fun hidle => ?_⟩) _
      have hreport : (pads.slots s).lastReport = idleReport (pads.slots s).guidePressed :=
        hphase.2 hidle
      exact (congrArg (HidReport.withGuide · pressed) hreport).trans (idleReport_withGuide ..)

/-- The calls of a pad event, made for its slot. -/
def Pads.calls (pads : Pads) (call : Fin maxSlots × PadEvent) : List (Fin maxSlots × HidIo) :=
  (fresh pads.hid (pads.handle host eventUdp call).hid).map (Prod.mk call.1)

/-- Seen from any slot, the calls of a pad event are accepted. -/
theorem handle_accept (hsettled : pads.Settled) (call : Fin maxSlots × PadEvent)
    (s : Fin maxSlots) (phase : GamepadPhase) (hphase : (pads.slots s).InPhase phase) :
    ∃ later, accept (GamepadPhase.next s) phase
        (callsOf s (pads.calls host eventUdp call)) = some later ∧
      ((pads.handle host eventUdp call).slots s).InPhase later := by
  obtain ⟨t, event⟩ := call
  obtain ⟨slot, calls, hslots, hhid, haccept⟩ := handle_calls host eventUdp hsettled t event
  rw [Pads.calls, hhid, Machine.fresh_append, Machine.callsOf_tagged, hslots]
  by_cases ht : t = s
  · subst ht
    obtain ⟨later, hcalls, hlater⟩ := haccept phase hphase
    rw [if_pos rfl]
    exact ⟨later, hcalls, by simpa [Pads.setSlot] using hlater⟩
  · rw [if_neg ht]
    exact ⟨phase, rfl, by simpa [Pads.setSlot, Ne.symm ht] using hphase⟩

end

/-! ## Cleanup -/

/-- One round of the cleanup loop. -/
def releaseGamepad (pads : Pads) (i : Fin maxSlots) : Pads :=
  if (pads.slots i).hidDevice then
    { pads with
      hid := .release :: pads.hid
      slots := Function.update pads.slots i { pads.slots i with hidDevice := false } }
  else pads

/-- The gamepads that are left when `main` cleans up. -/
def cleanup (pads : Pads) : Pads :=
  run releaseGamepad pads (List.finRange maxSlots)

/-- The calls of a round. -/
def Pads.releases (pads : Pads) (i : Fin maxSlots) : List (Fin maxSlots × HidIo) :=
  (fresh pads.hid (releaseGamepad pads i).hid).map (Prod.mk i)

theorem releaseGamepad_accept (pads : Pads) (i s : Fin maxSlots) (phase : GamepadPhase)
    (hphase : (pads.slots s).InPhase phase) :
    ∃ later, accept (GamepadPhase.next s) phase (callsOf s (pads.releases i)) = some later ∧
      ((releaseGamepad pads i).slots s).InPhase later := by
  rw [Pads.releases, Machine.callsOf_tagged]
  by_cases hdevice : (pads.slots i).hidDevice = true
  · simp only [releaseGamepad, if_pos hdevice, Machine.fresh_cons]
    by_cases hi : i = s
    · subst hi
      cases phase with
      | absent => exact absurd (hphase.1.symm.trans hdevice) Bool.false_ne_true
      | refused => exact hphase.elim
      | present last =>
          refine ⟨.absent, by simp [GamepadPhase.next], ?_⟩
          rw [Function.update_self]
          exact ⟨rfl, fun hidle => absurd (hidle.symm.trans hphase.2.1) Bool.false_ne_true⟩
    · rw [if_neg hi, Function.update_of_ne (Ne.symm hi)]
      exact ⟨phase, rfl, hphase⟩
  · simp only [releaseGamepad, if_neg hdevice, Machine.fresh_self, ite_self]
    exact ⟨phase, rfl, hphase⟩

/-- A round leaves no gamepad of its slot, and takes none away from another. -/
theorem releaseGamepad_hidDevice (pads : Pads) (i s : Fin maxSlots) :
    ((releaseGamepad pads i).slots s).hidDevice =
      if s = i then false else (pads.slots s).hidDevice := by
  unfold releaseGamepad
  split
  · by_cases hs : s = i
    · subst hs
      simp
    · simp [hs]
  next hnone =>
    split
    next hs => exact hs ▸ Bool.eq_false_of_not_eq_true hnone
    next => rfl

theorem cleanup_hidDevice (pads : Pads) (s : Fin maxSlots) :
    ((cleanup pads).slots s).hidDevice = false := by
  suffices hall : ∀ rounds : List (Fin maxSlots), s ∈ rounds ∨ (pads.slots s).hidDevice = false →
      ((run releaseGamepad pads rounds).slots s).hidDevice = false from
    hall _ (Or.inl (List.mem_finRange s))
  intro rounds
  induction rounds generalizing pads with
  | nil => exact fun hdone => hdone.resolve_left List.not_mem_nil
  | cons i rest ih =>
      intro hdone
      refine ih _ ?_
      rw [releaseGamepad_hidDevice]
      rcases hdone with hmem | hnone
      · rcases List.mem_cons.mp hmem with hs | hrest
        · exact Or.inr (if_pos hs)
        · exact Or.inl hrest
      · exact Or.inr (by rw [hnone, ite_self])

/-- The HID calls of the cleanup. -/
def cleanupTrace (pads : Pads) : List (Fin maxSlots × HidIo) :=
  emitted releaseGamepad Pads.releases pads (List.finRange maxSlots)

theorem cleanup_hid (pads : Pads) :
    (cleanup pads).hid = ((cleanupTrace pads).map Prod.snd).reverse ++ pads.hid := by
  refine Machine.log_run Prod.snd Pads.hid (fun _ => True) (fun _ _ _ => trivial) ?_ trivial _
  intro pads i _
  rw [Pads.releases]
  unfold releaseGamepad
  split
  · simp
  · simp

/-- The cleanup is accepted as well and leaves no gamepad. -/
theorem cleanup_accept {pads : Pads} {s : Fin maxSlots} {phase : GamepadPhase}
    (hphase : (pads.slots s).InPhase phase) :
    accept (GamepadPhase.next s) phase (callsOf s (cleanupTrace pads)) = some .absent := by
  obtain ⟨later, haccept, hlater⟩ := Machine.emitted_accept GamepadPhase.next
    (fun pads s => Slot.InPhase (pads.slots s)) (fun _ => True) (fun _ _ _ => trivial)
    (fun pads i s phase _ => releaseGamepad_accept pads i s phase) trivial hphase
    (List.finRange maxSlots)
  have hnone : ((run releaseGamepad pads (List.finRange maxSlots)).slots s).hidDevice = false :=
    cleanup_hidDevice pads s
  refine haccept.trans (congrArg some ?_)
  cases later with
  | absent => rfl
  | refused => exact hlater.elim
  | present last => exact absurd (hnone.symm.trans hlater.1) Bool.false_ne_true

/-! ## Runs -/

section

variable (world : World)

/-- The HID calls of a step. -/
def Daemon.hidCalls (daemon : Daemon) (step : Step) : List (Fin maxSlots × HidIo) :=
  emitted (Pads.handle world.host world.eventUdp) (Pads.calls world.host world.eventUdp) daemon.pads
    (daemon.table.padEvents (step.stimulus world.env daemon.air.ourMac))

/-- The HID calls of a run. -/
def hidTrace (boot : Daemon) (steps : List Step) : List (Fin maxSlots × HidIo) :=
  emitted (Daemon.step world) (Daemon.hidCalls world) boot steps

theorem handle_hid {pads : Pads} (hsettled : pads.Settled) (call : Fin maxSlots × PadEvent) :
    (pads.handle world.host world.eventUdp call).hid =
      ((pads.calls world.host world.eventUdp call).map Prod.snd).reverse ++ pads.hid := by
  obtain ⟨-, calls, -, hhid, -⟩ :=
    handle_calls world.host world.eventUdp hsettled call.1 call.2
  have hlog : (pads.handle world.host world.eventUdp call).hid = calls ++ pads.hid := hhid
  rw [Pads.calls, hlog, Machine.fresh_append, List.map_map]
  simp [Function.comp_def]

theorem step_hid {daemon : Daemon} (hwf : daemon.table.WF) (hsettled : daemon.pads.Settled)
    (step : Step) : (daemon.step world step).pads.hid =
      ((daemon.hidCalls world step).map Prod.snd).reverse ++ daemon.pads.hid := by
  rw [step_pads world hwf step]
  exact Machine.log_run Prod.snd Pads.hid Pads.Settled (fun _ call hpads => hpads.handle _ _ call)
    (fun _ call hpads => handle_hid world hpads call) hsettled _

theorem step_settled {daemon : Daemon} (hinv : daemon.table.WF ∧ daemon.pads.Settled)
    (step : Step) : (daemon.step world step).table.WF ∧ (daemon.step world step).pads.Settled := by
  refine ⟨step_wf world hinv.1 step, ?_⟩
  rw [step_pads world hinv.1 step]
  exact Machine.run_invariant Pads.Settled (fun _ call hpads => hpads.handle _ _ call) hinv.2 _

/-- Seen from any slot, the calls of a step are accepted. -/
theorem step_accept {daemon : Daemon} (hinv : daemon.table.WF ∧ daemon.pads.Settled) (step : Step)
    (s : Fin maxSlots) (phase : GamepadPhase) (hphase : (daemon.pads.slots s).InPhase phase) :
    ∃ later, accept (GamepadPhase.next s) phase
        (callsOf s (daemon.hidCalls world step)) = some later ∧
      ((daemon.step world step).pads.slots s).InPhase later := by
  rw [step_pads world hinv.1 step]
  exact Machine.emitted_accept GamepadPhase.next (fun pads s => (Slot.InPhase (pads.slots s)))
    Pads.Settled (fun _ call hpads => hpads.handle _ _ call)
    (fun _ call s phase hpads => handle_accept world.host world.eventUdp hpads call s phase)
    hinv.2 hphase _

theorem boots_inPhase {boot : Daemon} (hboot : Boots world boot) (s : Fin maxSlots) :
    (boot.pads.slots s).InPhase .absent := by
  rw [boots_slots world hboot]
  exact ⟨rfl, fun _ => rfl⟩

/-- Over every run, the HID log after `main` has cleaned up is what the probe, the steps and the
cleanup called. The calls of each slot follow its life cycle: while the daemon runs its gamepad is
there or not as the slot has it, and the report posted last to it is the slot's. In the end there is
none left. -/
theorem gamepads_released {boot : Daemon} (hboot : Boots world boot) (steps : List Step) :
    (cleanup (run (Daemon.step world) boot steps).pads).hid =
        ((hidTrace world boot steps ++
          cleanupTrace (run (Daemon.step world) boot steps).pads).map Prod.snd).reverse ++
        boot.pads.hid ∧
      ∀ s,
        (∃ phase, accept (GamepadPhase.next s) .absent (callsOf s (hidTrace world boot steps)) =
            some phase ∧
          ((run (Daemon.step world) boot steps).pads.slots s).InPhase phase) ∧
        accept (GamepadPhase.next s) .absent
          (callsOf s (hidTrace world boot steps ++
            cleanupTrace (run (Daemon.step world) boot steps).pads)) = some .absent := by
  have hstart : boot.table.WF ∧ boot.pads.Settled :=
    ⟨boots_wf world hboot, (boots_settled world hboot).1⟩
  have hsteps := Machine.log_run Prod.snd (fun daemon : Daemon => daemon.pads.hid)
    (fun daemon => daemon.table.WF ∧ daemon.pads.Settled)
    (fun _ step hinv => step_settled world hinv step)
    (fun _ step hinv => step_hid world hinv.1 hinv.2 step) hstart steps
  refine ⟨?_, fun s => ?_⟩
  · rw [List.map_append, List.reverse_append, List.append_assoc, cleanup_hid]
    exact congrArg _ hsteps
  · obtain ⟨phase, haccept, hphase⟩ := Machine.emitted_accept GamepadPhase.next
      (fun (daemon : Daemon) s => Slot.InPhase (daemon.pads.slots s))
      (fun daemon : Daemon => daemon.table.WF ∧ daemon.pads.Settled)
      (fun _ step hinv => step_settled world hinv step)
      (fun _ step s phase hinv => step_accept world hinv step s phase)
      hstart (boots_inPhase world hboot s) steps
    refine ⟨⟨phase, haccept, hphase⟩, ?_⟩
    rw [Machine.callsOf_append, Machine.accept_append, hidTrace, haccept]
    exact cleanup_accept hphase

end

theorem gamepads_released_pulled :
    (cleanup (run (Daemon.step (romWorld plainRom)) plainBoot pulledSteps).pads).hid =
        ((hidTrace (romWorld plainRom) plainBoot pulledSteps ++
          cleanupTrace (run (Daemon.step (romWorld plainRom)) plainBoot pulledSteps).pads).map
            Prod.snd).reverse ++
        plainBoot.pads.hid ∧
      ∀ s,
        (∃ phase, accept (GamepadPhase.next s) .absent
            (callsOf s (hidTrace (romWorld plainRom) plainBoot pulledSteps)) = some phase ∧
          ((run (Daemon.step (romWorld plainRom)) plainBoot pulledSteps).pads.slots s).InPhase
            phase) ∧
        accept (GamepadPhase.next s) .absent
          (callsOf s (hidTrace (romWorld plainRom) plainBoot pulledSteps ++
            cleanupTrace (run (Daemon.step (romWorld plainRom)) plainBoot pulledSteps).pads)) =
          some .absent :=
  gamepads_released (romWorld plainRom) plainBoot_boots pulledSteps

end XoneDarwin
