import XoneDarwin.Daemon.OnAir

/-!
# The advertised channel and the radio's

The radio is switched by start-up, by a forced channel and by the scan; the host
keeps the number in `g_pairing_channel`. Two things make them differ: a forced
channel is sent to the radio minus 12, and a first scan that is not due yet
reports channel 0x24 although the radio is still on 0x2c.
-/

namespace XoneDarwin

open Machine (run Always First Emits Follows)

variable (world : World)

/-- The pairing channel is the one the radio was last switched to. -/
def Air.OnChannel (air : Air) : Prop :=
  air.usb.findSome? UsbIo.switchChannel? = some air.pairingChannel

/-- A housekeeping pass. -/
def Step.IsPass : Step → Prop
  | .transfer _ _ => False
  | .housekeeping _ _ => True

/-- The run advertises the channel the radio is on. -/
structure StaysOnChannel (boot : Daemon) (steps : List Step) : Prop where
  /-- every beacon and probe response names the channel switched to last -/
  advertised : Follows UsbIo.advertises? UsbIo.switchChannel?
    (run (Daemon.step world) boot steps).air.usb
  atStart : boot.air.OnChannel
  atPasses : Always (Daemon.step world)
    (fun daemon step => step.IsPass → (daemon.step world step).air.OnChannel) boot steps

/-! ## Tuned states -/

/-- The invariant: announcements were right so far and the pairing channel is. -/
structure Air.Tuned (air : Air) : Prop where
  follows : Follows UsbIo.advertises? UsbIo.switchChannel? air.usb
  channel : air.OnChannel

/-- Housework announces and switches nothing. -/
theorem Emits.untuning {before after : UsbLog} {channel : UInt8}
    (hemits : Emits UsbIo.Housework before after) :
    Emits (fun io => io.switchChannel? = none ∧ ∀ ch, io.advertises? = some ch → ch = channel)
      before after := by
  refine hemits.mono fun io hio => ⟨hio.switchChannel?, fun ch hch => ?_⟩
  rw [hio.advertises?] at hch
  cases hch

theorem Air.Tuned.sends {sends : List Sent} {before after : Air} (htuned : before.Tuned)
    (hsends : Air.Sends sends before after) : after.Tuned := by
  have hextend := htuned.follows.extend
    (hsends.emits.mono fun _ hio => ⟨hio.switch, fun _ => hio.advertises?⟩) htuned.channel
  refine ⟨hextend.1, ?_⟩
  rw [Air.OnChannel, hsends.pairingChannel]
  exact hextend.2

/-- A switch, perhaps a beacon on the new channel, then housework. -/
theorem tuned_switch {log after : UsbLog} {beacons : List UsbIo} {channel bw scan power : UInt8}
    {status : UsbStatus} (hfollows : Follows UsbIo.advertises? UsbIo.switchChannel? log)
    (hbeacons : ∀ io ∈ beacons, ∃ mac status', io = beaconIo mac channel status')
    (hemits : Emits UsbIo.Housework (beacons ++ switchIo channel bw scan power status :: log)
      after) :
    Follows UsbIo.advertises? UsbIo.switchChannel? after ∧
      after.findSome? UsbIo.switchChannel? = some channel := by
  have hswitch : Follows UsbIo.advertises? UsbIo.switchChannel?
      (switchIo channel bw scan power status :: log) :=
    hfollows.silent (Emits.one (switchIo_advertises channel bw scan power status))
  have hlatest : (switchIo channel bw scan power status :: log).findSome? UsbIo.switchChannel? =
      some channel := by rw [List.findSome?_cons, switchIo_switch]
  refine hswitch.extend (Emits.trans ⟨beacons, rfl, fun io hio => ?_⟩ (Emits.untuning hemits))
    hlatest
  obtain ⟨mac, status', rfl⟩ := hbeacons io hio
  refine ⟨beaconIo_switch mac channel status', fun ch hch => ?_⟩
  rw [beaconIo_advertises, Option.some.injEq] at hch
  exact hch.symm

/-! ## Start-up -/

theorem radioInit_tuned {dongle : Dongle} {log final : UsbLog} {mac : Mac}
    (hlog : Emits UsbIo.Housework [] log) (hinit : mt76RadioInit dongle log = (some mac, final)) :
    Follows UsbIo.advertises? UsbIo.switchChannel? final ∧
      final.findSome? UsbIo.switchChannel? = some 0x2c := by
  obtain ⟨early, tuned, status, status', hearly, -, htuned, hfinal⟩ :=
    mt76RadioInit_log dongle hinit
  have hread := Emits.housework (mt76ReadMac_ctrl dongle early)
  have hsilent : Emits (fun io : UsbIo => io.advertises? = none) [] tuned :=
    (((hlog.trans hearly).trans hread).mono fun _ hio => hio.advertises?).trans
      (htuned.mono fun _ hio => hio.advertises?)
  have hfollows : Follows UsbIo.advertises? UsbIo.switchChannel? ([] : UsbLog) := trivial
  have hbeacons : ∀ io ∈ [beaconIo mac 0x2c status'], ∃ mac status',
      io = beaconIo mac 0x2c status' :=
    fun io hio => ⟨mac, status', List.mem_singleton.mp hio⟩
  exact tuned_switch (hfollows.silent hsilent) hbeacons hfinal

theorem sub_twelve_ne (channel : UInt8) : channel - 12 ≠ channel := by
  intro heq
  have hval := congrArg UInt8.toNat heq
  rw [UInt8.toNat_sub] at hval
  have htwelve : (12 : UInt8).toNat = 12 := rfl
  have hlt := channel.toNat_lt
  omega

/-- A start with a forced channel is off channel; without one it is on 0x2c and nothing has
been scanned. -/
theorem boots_channel {boot : Daemon} (hboot : Boots world boot) (hpid : world.pid = .v3) :
    (world.env.forcedPairingChannel ≠ 0 → ¬boot.air.OnChannel) ∧
      (world.env.forcedPairingChannel = 0 →
        boot.air.Tuned ∧ boot.air.pairingChannel = 0x2c ∧ boot.air.scan = {}) := by
  obtain ⟨log, mac, final, hlog, hinit, hair⟩ := boots_radio world hboot hpid
  obtain ⟨hfollows, hlatest⟩ := radioInit_tuned hlog hinit
  rw [hair]
  constructor
  · intro hforced hchannel
    obtain ⟨status, beacons, hbeacons, hemits, hsame⟩ := forcePairingChannel_log world hforced
      { (mainStart world).air with ourMac := mac, usb := final }
    have hswitched := tuned_switch hfollows
      (fun io hio => (hbeacons io hio).imp' (fun _ => mac) fun status' hio => ⟨status', hio⟩) hemits
    have hnumber : (forcePairingChannel world
        { (mainStart world).air with ourMac := mac, usb := final }).pairingChannel =
        world.env.forcedPairingChannel := by
      rw [hsame]
      exact if_pos hforced
    rw [Air.OnChannel, hswitched.2, hnumber, Option.some.injEq] at hchannel
    exact sub_twelve_ne _ hchannel
  · intro hforced
    rw [forcePairingChannel, if_neg (not_not.mpr hforced)]
    have hnumber : (mainStart world).air.pairingChannel = 0x2c := if_neg (not_not.mpr hforced)
    refine ⟨⟨hfollows, ?_⟩, hnumber, rfl⟩
    rw [Air.OnChannel]
    exact hlatest.trans (congrArg some hnumber.symm)

/-! ## Scans -/

/-- A scan that is due tunes to the next channel. -/
theorem scan_due {air : Air} (htuned : air.Tuned) {scanNow : UInt64}
    (hdue : air.scan.Due scanNow) :
    (pairingScan world scanNow air).Tuned ∧
      (pairingScan world scanNow air).pairingChannel =
        scanChannel (pairingScan world scanNow air).scan.chIdx := by
  obtain ⟨status, status', hlog, hchannel, hstate⟩ :=
    (mt76PairingChannelScan_log world.dongle scanNow air.scan air.usb).2 hdue
  have hread := Emits.housework (scanMac_ctrl world.dongle air.scan.mac air.usb)
  have hfollows := htuned.follows.silent (hread.mono fun _ hio => hio.advertises?)
  have hswitched := tuned_switch hfollows ?_ hlog
  · refine ⟨⟨hswitched.1, ?_⟩, ?_⟩
    · exact hswitched.2.trans (congrArg some hchannel.symm)
    · exact hchannel.trans (congrArg (fun state : ScanState => scanChannel state.chIdx) hstate.symm)
  · intro io hio
    split at hio
    · exact ⟨_, status', List.mem_singleton.mp hio⟩
    · exact absurd hio List.not_mem_nil

/-- A scan that is not due reports the channel of the scan index. -/
theorem scan_not_due {air : Air} (htuned : air.Tuned) {scanNow : UInt64}
    (hdue : ¬air.scan.Due scanNow) :
    Follows UsbIo.advertises? UsbIo.switchChannel? (pairingScan world scanNow air).usb ∧
      (pairingScan world scanNow air).usb.findSome? UsbIo.switchChannel? =
        some air.pairingChannel ∧
      (pairingScan world scanNow air).pairingChannel = scanChannel air.scan.chIdx ∧
      (pairingScan world scanNow air).scan.chIdx = air.scan.chIdx := by
  obtain ⟨hlog, hchannel, hstate⟩ :=
    (mt76PairingChannelScan_log world.dongle scanNow air.scan air.usb).1 hdue
  obtain ⟨hfollows, hlatest⟩ :=
    htuned.follows.extend (Emits.untuning (Emits.housework hlog)) htuned.channel
  have hindex : (pairingScan world scanNow air).scan.chIdx = air.scan.chIdx :=
    (congrArg ScanState.chIdx hstate).trans rfl
  exact ⟨hfollows, hlatest, hchannel, hindex⟩

/-! ## Runs -/

/-- Once a scan has tuned, the pairing channel is the scan's. -/
structure Daemon.Scanned (daemon : Daemon) : Prop where
  wf : daemon.table.WF
  tuned : daemon.air.Tuned
  index : daemon.air.pairingChannel = scanChannel daemon.air.scan.chIdx

/-- Before the first scan. -/
structure Daemon.Unscanned (daemon : Daemon) : Prop where
  wf : daemon.table.WF
  tuned : daemon.air.Tuned
  channel : daemon.air.pairingChannel = 0x2c
  scan : daemon.air.scan = {}

variable {daemon : Daemon}

theorem Daemon.Scanned.step (hscanned : daemon.Scanned) (step : Step) :
    (daemon.step world step).Scanned := by
  obtain ⟨hwf, htuned, hindex⟩ := hscanned
  rcases step_air world hwf step with ⟨-, sends, hsends⟩ | ⟨-, enabled, hsends, hscan⟩
  · refine ⟨step_wf world hwf step, htuned.sends hsends, ?_⟩
    rw [hsends.pairingChannel, hsends.scan, hindex]
  · have henabled := htuned.sends hsends
    have hsame : enabled.pairingChannel = scanChannel enabled.scan.chIdx := by
      rw [hsends.pairingChannel, hsends.scan, hindex]
    by_cases hdue : enabled.scan.Due step.scanClock
    · obtain ⟨htuned', hindex'⟩ := scan_due world henabled hdue
      exact ⟨step_wf world hwf step, hscan ▸ htuned', hscan ▸ hindex'⟩
    · obtain ⟨hfollows, hlatest, hchannel, hkept⟩ := scan_not_due world henabled hdue
      refine ⟨step_wf world hwf step, hscan ▸ ⟨hfollows, ?_⟩, ?_⟩
      · rw [Air.OnChannel, hlatest, hchannel, hsame]
      · rw [hscan, hchannel, hkept]

theorem Daemon.Unscanned.step_quiet (hunscanned : daemon.Unscanned) {step : Step}
    (hnot : ¬step.Scans world daemon) : (daemon.step world step).Unscanned := by
  obtain ⟨hwf, htuned, hchannel, hscan⟩ := hunscanned
  rcases step_air world hwf step with ⟨-, sends, hsends⟩ | ⟨hscans, -⟩
  · exact ⟨step_wf world hwf step, htuned.sends hsends, hsends.pairingChannel.trans hchannel,
      hsends.scan.trans hscan⟩
  · exact absurd hscans hnot

/-- The first scan tunes the radio if it is due, and leaves it off channel otherwise. -/
theorem Daemon.Unscanned.step_scan (hunscanned : daemon.Unscanned) {step : Step}
    (hscans : step.Scans world daemon) :
    (step.scanClock > 2000 → (daemon.step world step).Scanned) ∧
      (¬step.scanClock > 2000 → ¬(daemon.step world step).air.OnChannel) := by
  obtain ⟨hwf, htuned, hchannel, hinitial⟩ := hunscanned
  rcases step_air world hwf step with ⟨hnot, -⟩ | ⟨-, enabled, hsends, hscan⟩
  · exact absurd hscans hnot
  · have henabled := htuned.sends hsends
    have hstate : enabled.scan = {} := hsends.scan.trans hinitial
    have hclock : enabled.scan.Due step.scanClock ↔ step.scanClock > 2000 := by
      rw [hstate, ScanState.Due, UInt64.sub_zero]
    constructor
    · intro hlate
      obtain ⟨htuned', hindex'⟩ := scan_due world henabled (hclock.mpr hlate)
      exact ⟨step_wf world hwf step, hscan ▸ htuned', hscan ▸ hindex'⟩
    · intro hearly hon
      obtain ⟨-, hlatest, hreported, -⟩ :=
        scan_not_due world henabled fun hdue => hearly (hclock.mp hdue)
      rw [hscan, Air.OnChannel, hlatest, hreported, hsends.pairingChannel, hchannel, hstate,
        Option.some.injEq] at hon
      exact absurd hon (by decide)

/-- After the first scan nothing goes wrong any more. -/
theorem Daemon.Scanned.stays (hscanned : daemon.Scanned) (steps : List Step) :
    Follows UsbIo.advertises? UsbIo.switchChannel? (run (Daemon.step world) daemon steps).air.usb ∧
      Always (Daemon.step world)
        (fun daemon step => step.IsPass → (daemon.step world step).air.OnChannel) daemon steps := by
  have hrun := Machine.run_invariant Daemon.Scanned
    (fun _ step hscanned => hscanned.step world step) hscanned steps
  refine ⟨hrun.tuned.follows, ?_⟩
  refine Machine.always_of_invariant Daemon.Scanned
    (fun _ step hscanned => hscanned.step world step) ?_ hscanned steps
  intro daemon step hscanned _
  exact (hscanned.step world step).tuned.channel

/-- Up to the first scan nothing goes wrong, and its clock decides about the rest. -/
theorem Daemon.Unscanned.stays_iff (hunscanned : daemon.Unscanned) (steps : List Step) :
    Follows UsbIo.advertises? UsbIo.switchChannel?
          (run (Daemon.step world) daemon steps).air.usb ∧
        Always (Daemon.step world)
          (fun daemon step => step.IsPass → (daemon.step world step).air.OnChannel) daemon steps ↔
      First (Daemon.step world) (fun daemon step => step.Scans world daemon)
        (fun _ step => step.scanClock > 2000) daemon steps := by
  induction steps generalizing daemon with
  | nil => exact iff_of_true ⟨hunscanned.tuned.follows, Machine.always_nil⟩ trivial
  | cons step rest ih =>
      rw [Machine.run_cons, Machine.always_cons, First]
      by_cases hscans : step.Scans world daemon
      · obtain ⟨hlate, hearly⟩ := hunscanned.step_scan world hscans
        have hpass : step.IsPass := by
          cases step with
          | transfer now t => exact hscans.elim
          | housekeeping now scanNow => trivial
        -- a first scan that is not due returns the first channel of the list and tunes to nothing
        by_cases hclock : step.scanClock > 2000
        · obtain ⟨hfollows, halways⟩ := (hlate hclock).stays world rest
          exact iff_of_true ⟨hfollows, fun _ => (hlate hclock).tuned.channel, halways⟩
            ⟨fun _ => hclock, fun hnot => absurd hscans hnot⟩
        · exact iff_of_false (fun hstays => hearly hclock (hstays.2.1 hpass))
            (fun hfirst => hclock (hfirst.1 hscans))
      · have hquiet := hunscanned.step_quiet world hscans
        rw [← ih hquiet]
        constructor
        · intro hstays
          obtain ⟨hfollows, -, halways⟩ := hstays
          exact ⟨fun hscans' => absurd hscans' hscans, fun _ => ⟨hfollows, halways⟩⟩
        · intro hfirst
          obtain ⟨-, hrest⟩ := hfirst
          obtain ⟨hfollows, halways⟩ := hrest hscans
          exact ⟨hfollows, fun _ => hquiet.tuned.channel, halways⟩

/-- A run on the small dongle advertises the radio's channel if and only if no pairing channel is
forced and the first scan, if there is one, happens at a clock reading above 2000 ms. -/
theorem staysOnChannel_iff {boot : Daemon} (hboot : Boots world boot) (hpid : world.pid = .v3)
    (steps : List Step) :
    StaysOnChannel world boot steps ↔
      world.env.forcedPairingChannel = 0 ∧
        First (Daemon.step world) (fun daemon step => step.Scans world daemon)
          (fun _ step => step.scanClock > 2000) boot steps := by
  obtain ⟨hoff, hon⟩ := boots_channel world hboot hpid
  by_cases hforced : world.env.forcedPairingChannel = 0
  · obtain ⟨htuned, hchannel, hscan⟩ := hon hforced
    have hunscanned : boot.Unscanned := ⟨boots_wf world hboot, htuned, hchannel, hscan⟩
    rw [← hunscanned.stays_iff world steps]
    constructor
    · intro hstays
      obtain ⟨hfollows, -, hpasses⟩ := hstays
      exact ⟨hforced, hfollows, hpasses⟩
    · intro hcondition
      obtain ⟨-, hfollows, hpasses⟩ := hcondition
      exact ⟨hfollows, htuned.channel, hpasses⟩
  · exact iff_of_false (fun hstays => hoff hforced hstays.atStart)
      (fun hcondition => hforced hcondition.1)

theorem staysOnChannel_iff_plain :
    StaysOnChannel (romWorld plainRom) plainBoot [.housekeeping 0 3000] ↔
      (romWorld plainRom).env.forcedPairingChannel = 0 ∧
        First (Daemon.step (romWorld plainRom))
          (fun daemon step => step.Scans (romWorld plainRom) daemon)
          (fun _ step => step.scanClock > 2000) plainBoot [.housekeeping 0 3000] :=
  staysOnChannel_iff (romWorld plainRom) plainBoot_boots rfl _

/-- The small dongle with `XBOX_PAIR_CHANNEL=36`. -/
def forcedWorld : World :=
  { romWorld plainRom with env := { xboxPairChannel := some ['3', '6'] } }

def forcedBoot : Daemon := bootOf forcedWorld (by decide +kernel)

/-- Forced to channel 36, the radio is on channel 24 when initialisation is over. -/
theorem forced_not_staysOnChannel :
    Boots forcedWorld forcedBoot ∧ ¬StaysOnChannel forcedWorld forcedBoot [] := by
  refine ⟨bootOf_boots forcedWorld _, fun hstays => ?_⟩
  have hswitched : forcedBoot.air.usb.findSome? UsbIo.switchChannel? = some 24 := by decide +kernel
  have hnumber : forcedBoot.air.pairingChannel = 36 := by decide +kernel
  have hon := hstays.atStart
  rw [Air.OnChannel, hswitched, hnumber] at hon
  exact absurd hon (by decide)

end XoneDarwin
