import XoneDarwin.Daemon.Controls
import XoneDarwin.Daemon.OnAir

/-!
# The channel lock

`read_loop` tests the lock and leaves the switch to a scan that follows, while the
reader threads handle frames. A housekeeping pass is therefore two steps here, with
any number of transfers between them.
-/

namespace XoneDarwin

open Machine (run Always)

variable (world : World)

/-! ## A pass in two steps -/

/-- The pairing check as far as the call of the scan. -/
def pairingTest (active : Nat) (air : Air) : Air :=
  if active = 0 then
    if air.pairingBeaconEnabled then air else setPairingBeacon world true air
  else if world.env.multiPairMode then setPairingBeacon world (active < maxSlots) air
  else air

/-- A state of the two threads. -/
structure LoopState where
  daemon : Daemon
  /-- the main thread found the lock free and is about to scan -/
  scanning : Bool := false
  /-- since then a request was handled -/
  requested : Bool := false

inductive LoopStep
  | received (now : UInt64) (t : Transfer)
  | test (now : UInt64)
  | scan (now : UInt64)

def LoopStep.clock : LoopStep → UInt64
  | .received now _ => now
  | .test now => now
  | .scan now => now

/-- Does the transfer carry a request that locks the channel? -/
def Transfer.requests (ourMac : Mac) (t : Transfer) : Bool :=
  (rxFrame? t).any fun frame => frame.IsRequest ourMac

/-- The main thread tests when it has no scan ahead and scans when it has one. -/
def LoopState.step (loop : LoopState) : LoopStep → LoopState
  | .received now t =>
      { loop with
        daemon := handleTransfer world now t loop.daemon
        requested := loop.requested || (loop.scanning && t.requests loop.daemon.air.ourMac) }
  | .test now =>
      if loop.scanning then loop
      else
        let active := activeSlotCount loop.daemon.pads
        { daemon := { loop.daemon with air := pairingTest world active loop.daemon.air }
          scanning := loop.daemon.air.Scans world active now }
  | .scan now =>
      if loop.scanning then
        { daemon := { loop.daemon with air := pairingScan world now loop.daemon.air } }
      else loop

theorem pairingTest_sends (active : Nat) (air : Air) :
    Air.Sends [] air (pairingTest world active air) := by
  unfold pairingTest
  split
  · split
    · exact Air.Sends.refl air
    · exact setPairingBeacon_sends world air true
  · split
    · exact setPairingBeacon_sends world air _
    · exact Air.Sends.refl air

theorem pairingTest_lock (active : Nat) (air : Air) :
    (pairingTest world active air).channelLockUntilMs = air.channelLockUntilMs := by
  unfold pairingTest
  split
  · split
    · rfl
    · exact (setPairingBeacon_controls world air true).1
  · split
    · exact (setPairingBeacon_controls world air _).1
    · rfl

theorem pairingCheck_test (active : Nat) (now scanNow : UInt64) (air : Air) :
    pairingCheck world active now scanNow air =
      if air.Scans world active now then pairingScan world scanNow (pairingTest world active air)
      else pairingTest world active air := by
  have hlock := pairingTest_lock world active air
  by_cases hactive : active = 0
  · subst hactive
    rw [pairingTest, if_pos rfl] at hlock ⊢
    simp only [pairingCheck, if_true]
    generalize (if air.pairingBeaconEnabled then air else setPairingBeacon world true air) = enabled
      at hlock ⊢
    simp only [Air.Scans, hlock, true_and]
    by_cases hforced : world.env.forcedPairingChannel = 0
    · simp only [hforced, not_true_eq_false, if_false, true_and, ne_eq]
    · simp only [hforced, not_false_eq_true, if_true, false_and, if_false, ne_eq]
  · have hnot : ¬air.Scans world active now := fun hscans => hactive hscans.1
    rw [if_neg hnot, pairingCheck, pairingTest, if_neg hactive, if_neg hactive]

/-- A test and a scan with nothing in between are a housekeeping pass. -/
theorem test_scan (daemon : Daemon) (now scanNow : UInt64) :
    run (LoopState.step world) { daemon := daemon } [.test now, .scan scanNow] =
      { daemon := daemon.step world (.housekeeping now scanNow) } := by
  simp only [Machine.run_cons, Machine.run_nil, LoopState.step, Bool.false_eq_true, if_false,
    decide_eq_true_eq, Daemon.step, housekeeping, pairingCheck_test]
  split
  next => rfl
  next hnot => rw [decide_eq_false hnot]

/-! ## What the lock is for -/

/-- The channels switched to so far. -/
def Air.tunings (air : Air) : List UInt8 :=
  air.usb.filterMap UsbIo.switchChannel?

/-- No switch was issued and the pairing channel is the same. -/
structure Air.SameTuning (before after : Air) : Prop where
  tunings : after.tunings = before.tunings
  channel : after.pairingChannel = before.pairingChannel

/-- After a request handled at `now` nothing is tuned before `now + 5000`. -/
def LockHolds (start : LoopState) (steps : List LoopStep) : Prop :=
  ∀ before now t during after, steps = before ++ .received now t :: (during ++ after) →
    t.requests (run (LoopState.step world) start before).daemon.air.ourMac = true →
    (∀ step ∈ during, step.clock.toNat < now.toNat + 5000) →
    let locked := run (LoopState.step world) start (before ++ [.received now t])
    locked.daemon.air.SameTuning (run (LoopState.step world) locked during).daemon.air

/-- Readings of a monotonic clock that 64 bits of milliseconds suffice for. -/
structure Steady (steps : List LoopStep) : Prop where
  monotone : steps.Pairwise fun earlier later => earlier.clock ≤ later.clock
  bounded : ∀ step ∈ steps, step.clock.toNat + 5000 < UInt64.size

/-- A scan would neither switch nor report another channel. -/
def Air.ScanIdle (air : Air) (now : UInt64) : Prop :=
  ¬air.scan.Due now ∧ scanChannel air.scan.chIdx = air.pairingChannel

/-- If a request slipped in between test and scan, the scan comes when the lock is over, or has
nothing to do. -/
def LoopStep.InTime (loop : LoopState) : LoopStep → Prop
  | .scan now =>
      loop.scanning = true → loop.requested = true →
        loop.daemon.air.channelLockUntilMs ≤ now ∨ loop.daemon.air.ScanIdle now
  | _ => True

namespace Air.SameTuning

theorem refl (air : Air) : Air.SameTuning air air := ⟨rfl, rfl⟩

theorem trans {before middle after : Air} (hfirst : Air.SameTuning before middle)
    (hsecond : Air.SameTuning middle after) : Air.SameTuning before after :=
  ⟨hsecond.tunings.trans hfirst.tunings, hsecond.channel.trans hfirst.channel⟩

/-- What happened after a state with the same tuning did not change it. -/
theorem of_later {start before after : Air} (hbefore : Air.SameTuning start before)
    (hafter : Air.SameTuning start after) : Air.SameTuning before after :=
  ⟨hafter.tunings.trans hbefore.tunings.symm, hafter.channel.trans hbefore.channel.symm⟩

end Air.SameTuning

theorem Air.Sends.sameTuning {sends : List Sent} {before after : Air}
    (hsends : Air.Sends sends before after) : before.SameTuning after where
  tunings := (hsends.emits.mono fun _ hio => hio.switch).filterMap_eq
  channel := hsends.pairingChannel

/-- A scan leaves the tuning alone exactly if it is idle. -/
theorem scan_sameTuning_iff (now : UInt64) (air : Air) :
    air.SameTuning (pairingScan world now air) ↔ air.ScanIdle now := by
  obtain ⟨hidle, hdue⟩ := mt76PairingChannelScan_log world.dongle now air.scan air.usb
  have hread := Emits.housework (scanMac_ctrl world.dongle air.scan.mac air.usb)
  by_cases hnow : air.scan.Due now
  · refine iff_of_false (fun hsame => ?_) (fun hidle => hidle.1 hnow)
    obtain ⟨status, status', hlog, -, -⟩ := hdue hnow
    have hgrown : (pairingScan world now air).tunings =
        scanChannel (air.scan.chIdx + 1) :: air.tunings := by
      have hlater := (hlog.mono fun _ hio => hio.switchChannel?).filterMap_eq
      have hearlier := (hread.mono fun _ hio => hio.switchChannel?).filterMap_eq
      refine hlater.trans ?_
      rw [List.filterMap_append, List.filterMap_cons, switchIo_switch, hearlier]
      split
      · rw [List.filterMap_cons, beaconIo_switch]
        rfl
      · rfl
    have hlength := congrArg List.length (hgrown.symm.trans hsame.tunings)
    rw [List.length_cons] at hlength
    omega
  · obtain ⟨hlog, hchannel, -⟩ := hidle hnow
    have htunings : (pairingScan world now air).tunings = air.tunings :=
      ((Emits.housework hlog).mono fun _ hio => hio.switchChannel?).filterMap_eq
    constructor
    · intro hsame
      exact ⟨hnow, hchannel.symm.trans hsame.channel⟩
    · intro hidle
      exact ⟨htunings, hchannel.trans hidle.2⟩

/-! ## Steps -/

section

variable {loop : LoopState} (hwf : loop.daemon.table.WF)

include hwf

theorem loopStep_wf (step : LoopStep) : (loop.step world step).daemon.table.WF := by
  cases step with
  | received now t => exact step_wf world hwf (.transfer now t)
  | test now =>
      simp only [LoopState.step]
      split <;> exact hwf
  | scan now =>
      simp only [LoopState.step]
      split <;> exact hwf

/-- Requests set the lock and nothing else touches it. -/
theorem received_lock (now : UInt64) (t : Transfer) :
    (loop.step world (.received now t)).daemon.air.channelLockUntilMs =
      if t.requests loop.daemon.air.ourMac then now + 5000
      else loop.daemon.air.channelLockUntilMs := by
  cases hframe : rxFrame? t with
  | some frame =>
      have hlock := (handleFrame_controls world loop.daemon now frame hwf).lock
      simpa only [LoopState.step, handleTransfer_frame world now hframe, Transfer.requests, hframe,
        Option.any_some, decide_eq_true_eq] using hlock
  | none =>
      have hlock := (handleEvent_controls world loop.daemon t).1
      simp only [LoopState.step, handleTransfer, hframe, Transfer.requests, Option.any_none,
        Bool.false_eq_true, if_false]
      split
      · rfl
      · exact hlock

theorem received_tuning (now : UInt64) (t : Transfer) :
    loop.daemon.air.SameTuning (loop.step world (.received now t)).daemon.air :=
  (handleTransfer_answers world now t hwf).air.sameTuning

end

section

variable (loop : LoopState)

theorem test_lock (now : UInt64) :
    (loop.step world (.test now)).daemon.air.channelLockUntilMs =
      loop.daemon.air.channelLockUntilMs := by
  simp only [LoopState.step]
  split
  · rfl
  · exact pairingTest_lock world _ _

theorem scan_lock (now : UInt64) :
    (loop.step world (.scan now)).daemon.air.channelLockUntilMs =
      loop.daemon.air.channelLockUntilMs := by
  simp only [LoopState.step]
  split <;> rfl

theorem test_tuning (now : UInt64) :
    loop.daemon.air.SameTuning (loop.step world (.test now)).daemon.air := by
  simp only [LoopState.step]
  split
  · exact Air.SameTuning.refl _
  · exact (pairingTest_sends world _ _).sameTuning

end

/-! ## Within the five seconds -/

/-- The lock lasts until `deadline`, and a scan that is ahead is known to be late. -/
structure LoopState.LockedUntil (loop : LoopState) (deadline : Nat) : Prop where
  wf : loop.daemon.table.WF
  lock : deadline ≤ loop.daemon.air.channelLockUntilMs.toNat
  requested : loop.scanning = true → loop.requested = true

theorem toNat_add_lock {now : UInt64} (hbounded : now.toNat + 5000 < UInt64.size) :
    (now + 5000).toNat = now.toNat + 5000 := by
  have hlock : (5000 : UInt64).toNat = 5000 := rfl
  rw [UInt64.toNat_add, hlock]
  exact Nat.mod_eq_of_lt hbounded

/-- A request locks. -/
theorem lockedUntil_request {loop : LoopState} (hwf : loop.daemon.table.WF) {now : UInt64}
    {t : Transfer} (hrequest : t.requests loop.daemon.air.ourMac = true)
    (hbounded : now.toNat + 5000 < UInt64.size) :
    (loop.step world (.received now t)).LockedUntil (now.toNat + 5000) where
  wf := loopStep_wf world hwf _
  lock := by
    rw [received_lock world hwf, if_pos hrequest, toNat_add_lock hbounded]
  requested := by
    intro hscanning
    change loop.scanning = true at hscanning
    simp only [LoopState.step, hscanning, hrequest, Bool.and_self, Bool.or_true]

/-- Before the deadline a step in time neither ends the lock nor tunes. -/
theorem LoopState.LockedUntil.step {loop : LoopState} {deadline : Nat}
    (hlocked : loop.LockedUntil deadline) {step : LoopStep} (hintime : step.InTime loop)
    (hbefore : step.clock.toNat < deadline) (hafter : deadline ≤ step.clock.toNat + 5000)
    (hbounded : step.clock.toNat + 5000 < UInt64.size) :
    (loop.step world step).LockedUntil deadline ∧
      loop.daemon.air.SameTuning (loop.step world step).daemon.air := by
  obtain ⟨hwf, hlock, hrequested⟩ := hlocked
  have hearly : ¬loop.daemon.air.channelLockUntilMs ≤ step.clock := by
    rw [UInt64.le_iff_toNat_le]
    omega
  cases step with
  | received now t =>
      refine ⟨⟨loopStep_wf world hwf _, ?_, ?_⟩, received_tuning world hwf now t⟩
      · rw [received_lock world hwf]
        split
        · -- another request can only extend the lock
          have hbounded : now.toNat + 5000 < UInt64.size := hbounded
          rw [toNat_add_lock hbounded]
          exact hafter
        · exact hlock
      · intro hscanning
        simp only [LoopState.step, hrequested hscanning, Bool.true_or]
  | test now =>
      refine ⟨⟨loopStep_wf world hwf _, ?_, ?_⟩, test_tuning world loop now⟩
      · rw [test_lock]
        exact hlock
      · simp only [LoopState.step]
        split
        next hscanning => exact fun _ => hrequested hscanning
        next =>
          -- the lock is on, so the test fails
          intro hscans
          exact absurd (of_decide_eq_true hscans).2.2 hearly
  | scan now =>
      refine ⟨⟨loopStep_wf world hwf _, ?_, ?_⟩, ?_⟩
      · rw [scan_lock]
        exact hlock
      · simp only [LoopState.step]
        split
        next => exact fun hnever => absurd hnever Bool.false_ne_true
        next hidle => exact fun hscanning => absurd hscanning hidle
      · by_cases hscanning : loop.scanning = true
        · simp only [LoopState.step, if_pos hscanning]
          apply (scan_sameTuning_iff world now _).mpr
          exact (hintime hscanning (hrequested hscanning)).resolve_left hearly
        · simp only [LoopState.step, if_neg hscanning]
          exact Air.SameTuning.refl _

/-- The same for the steps up to the deadline. -/
theorem LoopState.LockedUntil.run {start : LoopState} {deadline : Nat}
    (hlocked : start.LockedUntil deadline) {during : List LoopStep}
    (hintime : Always (LoopState.step world) (fun loop step => step.InTime loop) start during)
    (hclocks : ∀ step ∈ during, step.clock.toNat < deadline ∧
      deadline ≤ step.clock.toNat + 5000 ∧ step.clock.toNat + 5000 < UInt64.size) :
    start.daemon.air.SameTuning (run (LoopState.step world) start during).daemon.air := by
  refine (Machine.run_invariant_of_always (fun loop : LoopState =>
    loop.LockedUntil deadline ∧ start.daemon.air.SameTuning loop.daemon.air) ?_
    ⟨hlocked, Air.SameTuning.refl _⟩ (hintime.and_inputs hclocks)).2
  intro loop step hinv hstep
  obtain ⟨hlocked, hsame⟩ := hinv
  obtain ⟨hintime, hbefore, hafter, hbounded⟩ := hstep
  obtain ⟨hkept, hstill⟩ := hlocked.step world hintime hbefore hafter hbounded
  exact ⟨hkept, hsame.trans hstill⟩

/-! ## The race -/

/-- A request that locks the channel. -/
def LoopStep.Locks (loop : LoopState) (step : LoopStep) : Prop :=
  ∃ now t, step = .received now t ∧ t.requests loop.daemon.air.ourMac = true

/-- The lock is the one that a step set. -/
def LoopStep.LockOf (step : LoopStep) (loop : LoopState) : Prop :=
  loop.daemon.air.channelLockUntilMs = step.clock + 5000

/-- Only requests are noted, and no other step changes the lock. -/
theorem requested_step {loop : LoopState} (hwf : loop.daemon.table.WF) (step : LoopStep)
    (hrequested : (loop.step world step).requested = true) :
    step.Locks loop ∧ step.LockOf (loop.step world step) ∨
      loop.requested = true ∧
        ∀ earlier : LoopStep, earlier.LockOf loop → earlier.LockOf (loop.step world step) := by
  cases step with
  | received now t =>
      have hlock := received_lock world hwf now t
      cases hrequest : t.requests loop.daemon.air.ourMac with
      | true =>
          rw [if_pos hrequest] at hlock
          exact Or.inl ⟨⟨now, t, rfl, hrequest⟩, hlock⟩
      | false =>
          rw [hrequest] at hlock
          simp only [LoopState.step, hrequest, Bool.and_false, Bool.or_false] at hrequested
          exact Or.inr ⟨hrequested, fun _ hset => hlock.trans hset⟩
  | test now =>
      refine Or.inr ⟨?_, fun _ hset => (test_lock world loop now).trans hset⟩
      simp only [LoopState.step] at hrequested
      split at hrequested
      · exact hrequested
      · cases hrequested
  | scan now =>
      refine Or.inr ⟨?_, fun _ hset => (scan_lock world loop now).trans hset⟩
      simp only [LoopState.step] at hrequested
      split at hrequested
      · cases hrequested
      · exact hrequested

/-- The request that slipped in between the last test and now. -/
theorem requested_since {start : LoopState} (hwf : start.daemon.table.WF)
    (hnone : start.requested = false) {steps : List LoopStep}
    (hrequested : (run (LoopState.step world) start steps).requested = true) :
    ∃ before now t after, steps = before ++ .received now t :: after ∧
      t.requests (run (LoopState.step world) start before).daemon.air.ourMac = true ∧
      (run (LoopState.step world) start steps).daemon.air.channelLockUntilMs = now + 5000 := by
  obtain ⟨before, step, after, hsplit, hlocks, hlock⟩ :=
    Machine.run_since (fun loop : LoopState => loop.daemon.table.WF)
      (fun loop => loop.requested = true) (fun loop step => LoopStep.Locks loop step)
      LoopStep.LockOf (fun loop step hwf => loopStep_wf world hwf step)
      (fun loop step hwf => requested_step world hwf step) hwf
      (Bool.eq_false_iff.mp hnone) hrequested
  obtain ⟨now, t, rfl, hrequest⟩ := hlocks
  exact ⟨before, now, t, after, hsplit, hrequest, hlock⟩

/-! ## Runs -/

section

variable {boot : Daemon} (hboot : Boots world boot) {steps : List LoopStep}
  (hsteady : Steady steps)

include hboot hsteady

/-- Where the lock holds, a scan that a request preceded comes late or has nothing to do. -/
theorem LockHolds.inTime (hholds : LockHolds world { daemon := boot } steps) :
    Always (LoopState.step world) (fun loop step => step.InTime loop) { daemon := boot }
      steps := by
  intro before step after hsplit
  cases step with
  | received now t => trivial
  | test now => trivial
  | scan now =>
      intro hscanning hrequested
      obtain ⟨earlier, asked, t, between, hbefore, hrequest, hlock⟩ :=
        requested_since world (boots_wf world hboot) rfl hrequested
      have hsince : steps = earlier ++ .received asked t :: (between ++ .scan now :: after) := by
        rw [hsplit, hbefore, List.append_assoc, List.cons_append]
      have hasked : asked.toNat + 5000 < UInt64.size :=
        hsteady.bounded (.received asked t) (by rw [hsince]; simp)
      rw [hlock, UInt64.le_iff_toNat_le, toNat_add_lock hasked]
      by_cases hlate : asked.toNat + 5000 ≤ now.toNat
      · exact Or.inl hlate
      right
      -- everything since that request was read before the lock was over
      have hmonotone := (List.pairwise_append.mp (hsince ▸ hsteady.monotone)).2.1
      have hlast := (List.pairwise_append.mp (List.pairwise_cons.mp hmonotone).2).2.2
      have hclocks : ∀ step ∈ between ++ [LoopStep.scan now],
          step.clock.toNat < asked.toNat + 5000 := by
        intro step hstep
        rcases List.mem_append.mp hstep with hbetween | hscan
        · have hle := hlast step hbetween (.scan now) List.mem_cons_self
          exact Nat.lt_of_le_of_lt (UInt64.le_iff_toNat_le.mp hle) (Nat.lt_of_not_le hlate)
        · rw [List.mem_singleton.mp hscan]
          exact Nat.lt_of_not_le hlate
      have hbetween := hholds earlier asked t between (.scan now :: after) hsince hrequest
        fun step hstep => hclocks step (List.mem_append_left _ hstep)
      have hscan := hholds earlier asked t (between ++ [.scan now]) after
        (by rw [hsince, List.append_assoc]; rfl) hrequest hclocks
      have hreached : run (LoopState.step world)
          ((run (LoopState.step world) { daemon := boot } earlier).step world
            (.received asked t)) between =
          run (LoopState.step world) { daemon := boot } before := by
        rw [hbefore, Machine.run_append, Machine.run_cons]
      have hstill := hbetween.of_later hscan
      simp only [Machine.run_concat, hreached] at hstill
      apply (scan_sameTuning_iff world now _).mp
      simpa only [LoopState.step, if_pos hscanning] using hstill

/-- The lock holds where such scans are in time. -/
theorem lockHolds_of_inTime (hintime : Always (LoopState.step world)
    (fun loop step => step.InTime loop) { daemon := boot } steps) :
    LockHolds world { daemon := boot } steps := by
  intro before now t during after hsplit hrequest hclocks
  have hwf : (run (LoopState.step world) { daemon := boot } before).daemon.table.WF :=
    Machine.run_invariant (fun loop : LoopState => loop.daemon.table.WF)
      (fun loop step hwf => loopStep_wf world hwf step) (boots_wf world hboot) before
  have hmem {step : LoopStep} (hstep : step ∈ .received now t :: (during ++ after)) :
      step ∈ steps := hsplit ▸ List.mem_append_right before hstep
  have hmonotone := (List.pairwise_append.mp (hsplit ▸ hsteady.monotone)).2.1
  have hlater := (List.pairwise_cons.mp hmonotone).1
  rw [hsplit, Machine.always_append, Machine.always_cons, Machine.always_append] at hintime
  obtain ⟨-, -, hduring, -⟩ := hintime
  have hlocked := lockedUntil_request world hwf hrequest
    (hsteady.bounded _ (hmem List.mem_cons_self))
  simp only [Machine.run_concat]
  apply hlocked.run world hduring
  intro step hstep
  have hmember := List.mem_append_left after hstep
  refine ⟨hclocks step hstep, ?_, ?_⟩
  · have hle := UInt64.le_iff_toNat_le.mp (hlater step hmember)
    exact Nat.add_le_add_right hle 5000
  · exact hsteady.bounded step (hmem (List.mem_cons_of_mem _ hmember))

end

/-- In a run with a monotonic clock the lock holds if and only if every scan that a request
overtook comes when the lock is over, or has nothing to do. -/
theorem lockHolds_iff {boot : Daemon} (hboot : Boots world boot) {steps : List LoopStep}
    (hsteady : Steady steps) :
    LockHolds world { daemon := boot } steps ↔
      Always (LoopState.step world) (fun loop step => step.InTime loop) { daemon := boot }
        steps :=
  ⟨LockHolds.inTime world hboot hsteady, lockHolds_of_inTime world hboot hsteady⟩

/-- The controller probes for the dongle, with an empty SSID and its rates. -/
def probeStep : LoopStep :=
  .received 10000 (wlanTransfer 0x40 plainMac padMac
    [0x00, 0x00, 0x01, 0x04, 0x02, 0x04, 0x0b, 0x16] (by decide))

theorem lockHolds_iff_probe :
    LockHolds (romWorld plainRom) { daemon := plainBoot }
        [.test 9000, .scan 9000, probeStep, .test 11000] ↔
      Always (LoopState.step (romWorld plainRom)) (fun loop step => step.InTime loop)
        { daemon := plainBoot } [.test 9000, .scan 9000, probeStep, .test 11000] :=
  lockHolds_iff (romWorld plainRom) plainBoot_boots ⟨by decide +kernel, by decide +kernel⟩

/-- The probe arrives between the test and the scan. -/
theorem probe_overtakes_scan :
    Boots (romWorld plainRom) plainBoot ∧ Steady [.test 9999, probeStep, .scan 10001] ∧
      ¬LockHolds (romWorld plainRom) { daemon := plainBoot }
        [.test 9999, probeStep, .scan 10001] := by
  refine ⟨plainBoot_boots, ⟨by decide +kernel, by decide +kernel⟩, fun hholds => ?_⟩
  have hsame := hholds [.test 9999] 10000 _ [.scan 10001] [] rfl (by decide +kernel)
    (by decide +kernel)
  have hswitched : (run (LoopState.step (romWorld plainRom)) { daemon := plainBoot }
      [.test 9999, probeStep, .scan 10001]).daemon.air.pairingChannel ≠
        (run (LoopState.step (romWorld plainRom)) { daemon := plainBoot }
          [.test 9999, probeStep]).daemon.air.pairingChannel := by decide +kernel
  exact hswitched hsame.channel

end XoneDarwin
