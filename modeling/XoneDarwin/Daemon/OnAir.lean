import XoneDarwin.Daemon.Refinement

/-!
# Channel switches and beacons of a run

What start-up and a housekeeping pass put on the bus besides routine traffic, and
from it what every reachable state of the small dongle knows about its beacon:
there is one, and it is a pairing beacon whether or not pairing is enabled.
-/

namespace XoneDarwin

open Machine (run Emits)

variable (world : World)

/-! ## Start-up -/

/-- The small dongle starts with a firmware upload and a radio initialisation. -/
theorem boots_radio {boot : Daemon} (hboot : Boots world boot) (hpid : world.pid = .v3) :
    ∃ log mac final, Emits UsbIo.Housework [] log ∧
      mt76RadioInit world.dongle log = (some mac, final) ∧
      boot.air = forcePairingChannel world
        { (mainStart world).air with ourMac := mac, usb := final } := by
  obtain ⟨rounds, hinit⟩ := hboot
  simp only [mainInit, hpid] at hinit
  obtain ⟨fw, -, hinit⟩ := Option.bind_eq_some_iff.mp hinit
  obtain ⟨uploaded, hupload, hinit⟩ := Option.bind_eq_some_iff.mp hinit
  split at hinit
  · cases hinit
  · obtain ⟨mac, hmac, rfl⟩ := Option.map_eq_some_iff.mp hinit
    exact ⟨uploaded.2, mac, _, mt76UploadFwDma_housework world.dongle hupload,
      Prod.ext hmac rfl, rfl⟩

/-- The other adapters start without a transfer. -/
theorem boots_quiet {boot : Daemon} (hboot : Boots world boot) (hpid : world.pid ≠ .v3) :
    boot.air = (mainStart world).air := by
  obtain ⟨rounds, hinit⟩ := hboot
  cases hworld : world.pid with
  | v3 => exact absurd hworld hpid
  | v1 =>
      simp only [mainInit, hworld, Option.some.injEq] at hinit
      rw [← hinit]
  | v2 =>
      simp only [mainInit, hworld, Option.some.injEq] at hinit
      rw [← hinit]

/-- A forced channel costs one channel switch and at most one beacon, both for the channel
number minus 12. -/
theorem forcePairingChannel_log (hforced : world.env.forcedPairingChannel ≠ 0) (air : Air) :
    ∃ status beacons,
      (∀ io ∈ beacons, ∃ status',
        io = beaconIo air.ourMac (world.env.forcedPairingChannel - 12) status') ∧
      Emits UsbIo.Housework
        (beacons ++ switchIo (world.env.forcedPairingChannel - 12) mcuChBw20 1 0x18 status ::
          air.usb)
        (forcePairingChannel world air).usb ∧
      (forcePairingChannel world air) =
        { air with usb := (forcePairingChannel world air).usb } := by
  obtain ⟨status, hswitch⟩ := mt76ConfigureChannel_log world.dongle
    (world.env.forcedPairingChannel - 12) mcuChBw20 1 0x18 air.usb
  simp only [forcePairingChannel, if_pos hforced]
  split
  · obtain ⟨status', hbeacon⟩ := mt76WriteBeacon_log world.dongle air.ourMac 1
      (world.env.forcedPairingChannel - 12)
      (mt76ConfigureChannel world.dongle (world.env.forcedPairingChannel - 12) mcuChBw20 1 0x18
        air.usb).2
    refine ⟨status, [beaconIo air.ourMac (world.env.forcedPairingChannel - 12) status'], ?_, ?_,
      rfl⟩
    · intro io hio
      exact ⟨status', List.mem_singleton.mp hio⟩
    · rw [hswitch] at hbeacon ⊢
      exact hbeacon
  · refine ⟨status, [], by simp, ?_, rfl⟩
    rw [hswitch]
    exact Emits.refl _

theorem forcePairingChannel_rest (air : Air) :
    (forcePairingChannel world air).ourMac = air.ourMac ∧
      (forcePairingChannel world air).scan = air.scan ∧
      air.usb <:+ (forcePairingChannel world air).usb := by
  by_cases hforced : world.env.forcedPairingChannel = 0
  · rw [forcePairingChannel, if_neg (not_not.mpr hforced)]
    exact ⟨rfl, rfl, List.suffix_rfl⟩
  · obtain ⟨status, beacons, -, hlog, hsame⟩ := forcePairingChannel_log world hforced air
    refine ⟨by rw [hsame], by rw [hsame], ?_⟩
    exact ((List.suffix_cons _ _).trans (List.suffix_append _ _)).trans hlog.suffix

/-- Start-up puts channel set-up and beacons from the daemon's own address on the bus, nothing
else. -/
theorem boots_emits {boot : Daemon} (hboot : Boots world boot) {P : UsbIo → Prop}
    (htuning : ∀ io : UsbIo, io.Tuning → P io)
    (hbeacon : ∀ channel status, P (beaconIo boot.air.ourMac channel status)) :
    Emits P [] boot.air.usb := by
  have hswitch (ch bw scan power : UInt8) (status : UsbStatus) :
      P (switchIo ch bw scan power status) := htuning _ (Or.inr ⟨ch, bw, scan, power, status, rfl⟩)
  have hwork {before after : UsbLog} (hemits : Emits UsbIo.Housework before after) :
      Emits P before after := hemits.mono fun io hio => htuning io (Or.inl hio)
  by_cases hpid : world.pid = .v3
  · obtain ⟨log, mac, final, hlog, hinit, hair⟩ := boots_radio world hboot hpid
    obtain ⟨early, tuned, status, status', hearly, -, htuned, hfinal⟩ :=
      mt76RadioInit_log world.dongle hinit
    have hmac : boot.air.ourMac = mac := by
      rw [hair]
      exact (forcePairingChannel_rest world _).1
    rw [hmac] at hbeacon
    have hread := Emits.housework (mt76ReadMac_ctrl world.dongle early)
    have hsilent := (hwork ((hlog.trans hearly).trans hread)).trans (htuned.mono htuning)
    have hinitialised := ((hsilent.cons (hswitch 0x2c mcuChBw20 1 0x18 status)).cons
      (hbeacon 0x2c status')).trans (hwork hfinal)
    rw [hair]
    by_cases hforced : world.env.forcedPairingChannel = 0
    · rw [forcePairingChannel, if_neg (not_not.mpr hforced)]
      exact hinitialised
    · obtain ⟨status, beacons, hbeacons, hforce, -⟩ := forcePairingChannel_log world hforced
        { (mainStart world).air with ourMac := mac, usb := final }
      have hswitched := hinitialised.cons
        (hswitch (world.env.forcedPairingChannel - 12) mcuChBw20 1 0x18 status)
      refine (hswitched.trans ⟨beacons, rfl, fun io hio => ?_⟩).trans (hwork hforce)
      obtain ⟨status', rfl⟩ := hbeacons io hio
      exact hbeacon _ status'
  · rw [boots_quiet world hboot hpid]
    exact Emits.refl _

theorem UsbIo.Tuning.sent? {io : UsbIo} (hio : io.Tuning) : io.sent? = none := by
  rcases hio with hwork | ⟨ch, bw, scan, power, status, rfl⟩
  · exact hwork.sent?
  · exact switchIo_sent? ch bw scan power status

theorem Emits.unsent {before after : UsbLog} (hemits : Emits UsbIo.Housework before after) :
    Emits (fun io => UsbIo.sent? io = none) before after :=
  hemits.mono fun _ hio => hio.sent?

/-- Start-up tells controllers nothing. -/
theorem boots_sent {boot : Daemon} (hboot : Boots world boot) : boot.air.sent = [] :=
  (boots_emits world hboot (fun _ hio => hio.sent?)
    fun channel status => beaconIo_sent? _ channel status).filterMap_eq

/-! ## Housekeeping -/

/-- A pass either keeps to routine traffic or scans after it. -/
theorem pairingCheck_cases (active : Nat) (now scanNow : UInt64) (air : Air) :
    ¬air.Scans world active now ∧
        Air.Sends [] air (pairingCheck world active now scanNow air) ∨
      air.Scans world active now ∧ ∃ enabled, Air.Sends [] air enabled ∧
        pairingCheck world active now scanNow air = pairingScan world scanNow enabled := by
  by_cases hactive : active = 0
  · subst hactive
    have henabled := setPairingBeacon_sends world air true
    have hlock : (setPairingBeacon world true air).channelLockUntilMs =
        air.channelLockUntilMs := by
      unfold setPairingBeacon
      split <;> rfl
    rw [pairingCheck_idle, hlock]
    split
    next hforced => exact Or.inl ⟨fun hscans => hforced hscans.2.1, henabled⟩
    next hforced =>
      split
      next hnow => exact Or.inr ⟨⟨rfl, not_not.mp hforced, hnow⟩, _, henabled, rfl⟩
      next hnow => exact Or.inl ⟨fun hscans => hnow hscans.2.2, henabled⟩
  · refine Or.inl ⟨fun hscans => hactive hscans.1, ?_⟩
    simp only [pairingCheck, if_neg hactive]
    split
    · exact setPairingBeacon_sends world air _
    · exact Air.Sends.refl air

/-- Does a step get to the channel scan? -/
def Step.Scans (daemon : Daemon) : Step → Prop
  | .transfer _ _ => False
  | .housekeeping now _ => daemon.air.Scans world (activeSlotCount daemon.pads) now

/-- The clock reading inside the scan. -/
def Step.scanClock : Step → UInt64
  | .transfer now _ => now
  | .housekeeping _ scanNow => scanNow

/-- A step either keeps to routine traffic or scans after it. -/
theorem step_air {daemon : Daemon} (hwf : daemon.table.WF) (step : Step) :
    ¬step.Scans world daemon ∧
        (∃ sends, Air.Sends sends daemon.air (daemon.step world step).air) ∨
      step.Scans world daemon ∧ ∃ enabled, Air.Sends [] daemon.air enabled ∧
        (daemon.step world step).air = pairingScan world step.scanClock enabled := by
  cases step with
  | transfer now t =>
      exact Or.inl ⟨not_false, _, (handleTransfer_answers world now t hwf).air⟩
  | housekeeping now scanNow =>
      rcases pairingCheck_cases world (activeSlotCount daemon.pads) now scanNow daemon.air with
        ⟨hnot, hsends⟩ | ⟨hscans, henabled⟩
      · exact Or.inl ⟨hnot, [], hsends⟩
      · exact Or.inr ⟨hscans, henabled⟩

/-! ## Housekeeping tells controllers nothing -/

/-- The scan reads and writes registers, tunes and beacons. -/
theorem scan_sent (scanNow : UInt64) (air : Air) :
    (pairingScan world scanNow air).sent = air.sent := by
  obtain ⟨hidle, hdue⟩ := mt76PairingChannelScan_log world.dongle scanNow air.scan air.usb
  refine Emits.filterMap_eq ?_
  change Emits _ _ (mt76PairingChannelScan world.dongle scanNow air.scan air.usb).2.2
  have hread := Emits.unsent (Emits.housework (scanMac_ctrl world.dongle air.scan.mac air.usb))
  by_cases hnow : air.scan.Due scanNow
  · obtain ⟨status, status', hlog, -⟩ := hdue hnow
    have hswitch := hread.cons
      (switchIo_sent? (scanChannel (air.scan.chIdx + 1)) mcuChBw20 1 0x18 status)
    refine Emits.trans ?_ (Emits.unsent hlog)
    split
    · exact hswitch.cons (beaconIo_sent? _ _ status')
    · exact hswitch
  · exact Emits.unsent (Emits.housework (hidle hnow).1)

theorem pairingCheck_sent (active : Nat) (now scanNow : UInt64) (air : Air) :
    (pairingCheck world active now scanNow air).sent = air.sent := by
  have hbeacon (enabled : Bool) : (setPairingBeacon world enabled air).sent = air.sent :=
    (setPairingBeacon_sends world air enabled).sent
  by_cases hactive : active = 0
  · rw [hactive, pairingCheck_idle]
    split
    · exact hbeacon true
    · split
      · exact (scan_sent world scanNow _).trans (hbeacon true)
      · exact hbeacon true
  · simp only [pairingCheck, if_neg hactive]
    split
    · exact hbeacon _
    · rfl

/-! ## The programmed beacon -/

/-- An entry that programs nothing but beacons of the one encoder there is. -/
def UsbIo.Encoded (io : UsbIo) : Prop :=
  ∀ program, io.beaconProgram? = some program →
    ∃ mac channel, program = beaconPayload mac channel ++ [0]

section

variable {io : UsbIo}

theorem UsbIo.encoded_of_none (hnone : io.beaconProgram? = none) : io.Encoded := by
  intro program hprogram
  rw [hnone] at hprogram
  cases hprogram

theorem UsbIo.Routine.encoded {mac : Mac} {channel : UInt8} (hio : io.Routine mac channel) :
    io.Encoded :=
  fun program hprogram => ⟨mac, channel, hio.beacon program hprogram⟩

theorem beaconIo_encoded (mac : Mac) (channel : UInt8) (status : UsbStatus) :
    (beaconIo mac channel status).Encoded :=
  (beaconIo_routine mac channel status).encoded

theorem Emits.encoded {before after : UsbLog} (hemits : Emits UsbIo.Housework before after) :
    Emits UsbIo.Encoded before after :=
  hemits.mono fun _ hio => UsbIo.encoded_of_none hio.beaconProgram?

end

/-- The beacon programmed last comes from the encoder. -/
def Programmed (log : UsbLog) : Prop :=
  ∃ mac channel, log.findSome? UsbIo.beaconProgram? = some (beaconPayload mac channel ++ [0])

theorem Programmed.extend {before after : UsbLog} (hprogrammed : Programmed before)
    (hemits : Emits UsbIo.Encoded before after) : Programmed after := by
  obtain ⟨fresh, rfl, hfresh⟩ := hemits
  induction fresh with
  | nil => exact hprogrammed
  | cons io fresh ih =>
      rw [List.cons_append, Programmed, List.findSome?_cons]
      cases hio : io.beaconProgram? with
      | none => exact ih fun io hio => hfresh io (List.mem_cons_of_mem _ hio)
      | some program =>
          obtain ⟨mac, channel, rfl⟩ := hfresh io List.mem_cons_self program hio
          exact ⟨mac, channel, rfl⟩

theorem scan_encoded (scanNow : UInt64) (air : Air) :
    Emits UsbIo.Encoded air.usb (pairingScan world scanNow air).usb := by
  obtain ⟨hidle, hdue⟩ := mt76PairingChannelScan_log world.dongle scanNow air.scan air.usb
  change Emits _ _ (mt76PairingChannelScan world.dongle scanNow air.scan air.usb).2.2
  have hread := Emits.encoded (Emits.housework (scanMac_ctrl world.dongle air.scan.mac air.usb))
  by_cases hnow : air.scan.Due scanNow
  · obtain ⟨status, status', hlog, -⟩ := hdue hnow
    have hswitch := hread.cons (UsbIo.encoded_of_none
      (switchIo_program (scanChannel (air.scan.chIdx + 1)) mcuChBw20 1 0x18 status))
    refine Emits.trans ?_ (Emits.encoded hlog)
    split
    · exact hswitch.cons (beaconIo_encoded _ _ status')
    · exact hswitch
  · exact Emits.encoded (Emits.housework (hidle hnow).1)

theorem step_encoded {daemon : Daemon} (hwf : daemon.table.WF) (step : Step) :
    Emits UsbIo.Encoded daemon.air.usb (daemon.step world step).air.usb := by
  rcases step_air world hwf step with ⟨-, sends, hsends⟩ | ⟨-, enabled, hsends, hscan⟩
  · exact hsends.emits.mono fun _ hio => hio.encoded
  · rw [hscan]
    exact (hsends.emits.mono fun _ hio => hio.encoded).trans (scan_encoded world _ enabled)

theorem boots_programmed {boot : Daemon} (hboot : Boots world boot) (hpid : world.pid = .v3) :
    Programmed boot.air.usb := by
  obtain ⟨log, mac, final, -, hinit, hair⟩ := boots_radio world hboot hpid
  obtain ⟨early, tuned, status, status', -, -, -, hfinal⟩ := mt76RadioInit_log world.dongle hinit
  have hbeacon : Programmed (beaconIo mac 0x2c status' ::
      switchIo 0x2c mcuChBw20 1 0x18 status :: tuned) :=
    ⟨mac, 0x2c, by rw [List.findSome?_cons, beaconIo_program]⟩
  have hinitialised := hbeacon.extend (Emits.encoded hfinal)
  rw [hair]
  by_cases hforced : world.env.forcedPairingChannel = 0
  · rw [forcePairingChannel, if_neg (not_not.mpr hforced)]
    exact hinitialised
  · obtain ⟨status, beacons, hbeacons, hlog, -⟩ := forcePairingChannel_log world hforced
      { (mainStart world).air with ourMac := mac, usb := final }
    refine hinitialised.extend (Emits.trans ?_ (Emits.encoded hlog))
    refine ⟨beacons ++ [_], List.append_cons beacons _ final, ?_⟩
    intro io hio
    rcases List.mem_append.mp hio with hio | hio
    · obtain ⟨status', rfl⟩ := hbeacons io hio
      exact beaconIo_encoded _ _ status'
    · rw [List.mem_singleton.mp hio]
      exact UsbIo.encoded_of_none (switchIo_program _ _ _ _ status)

/-- The small dongle always has a beacon of the encoder. -/
theorem reachable_programmed {daemon : Daemon} (hreach : Reachable world daemon)
    (hpid : world.pid = .v3) : Programmed daemon.air.usb := by
  obtain ⟨boot, steps, hboot, rfl⟩ := hreach
  refine (Machine.run_invariant (fun daemon : Daemon =>
    daemon.table.WF ∧ Programmed daemon.air.usb) ?_
    ⟨boots_wf world hboot, boots_programmed world hboot hpid⟩ steps).2
  intro daemon step hinv
  obtain ⟨hwf, hprogrammed⟩ := hinv
  exact ⟨step_wf world hwf step, hprogrammed.extend (step_encoded world hwf step)⟩

/-! ## Disabling pairing -/

/-- `mt76_write_beacon` programs this beacon for pairing, on some dongle, address and channel. -/
def PairingProgram (program : List UInt8) : Prop :=
  ∃ dongle mac channel log,
    (mt76WriteBeacon dongle mac 1 channel log).2.findSome? UsbIo.beaconProgram? = some program

/-- The beacon programmed last is a pairing beacon. -/
def Air.ShowsPairing (air : Air) : Prop :=
  ∃ program, air.usb.findSome? UsbIo.beaconProgram? = some program ∧ PairingProgram program

theorem Programmed.showsPairing {air : Air} (hprogrammed : Programmed air.usb) :
    air.ShowsPairing := by
  obtain ⟨mac, channel, hlast⟩ := hprogrammed
  refine ⟨_, hlast, stillDongle, mac, channel, [], ?_⟩
  obtain ⟨status, hlog⟩ := mt76WriteBeacon_log stillDongle mac 1 channel []
  rw [(hlog.mono fun _ hio => hio.beaconProgram?).findSome?_eq, List.findSome?_cons,
    beaconIo_program]

/-- Disabling pairing has no effect on the device, whatever is written and whatever happened
before; and so the host's flag mirrors the device only while pairing is enabled. -/
theorem pairing_flag_has_no_effect (dongle : Dongle) (mac : Mac) (channel : UInt8) (log : UsbLog)
    {daemon : Daemon} (hpid : world.pid = .v3) (hreach : Reachable world daemon) :
    mt76WriteBeacon dongle mac 0 channel log = mt76WriteBeacon dongle mac 1 channel log ∧
      ((daemon.air.ShowsPairing ↔ daemon.air.pairingBeaconEnabled = true) ↔
        daemon.air.pairingBeaconEnabled = true) := by
  have hshows := (reachable_programmed world hreach hpid).showsPairing
  refine ⟨rfl, fun hmirror => hmirror.mp hshows, fun henabled => iff_of_true hshows henabled⟩

theorem pairing_flag_has_no_effect_plain :
    mt76WriteBeacon (romDongle plainRom) plainMac 0 0x2c [] =
        mt76WriteBeacon (romDongle plainRom) plainMac 1 0x2c [] ∧
      ((plainBoot.air.ShowsPairing ↔ plainBoot.air.pairingBeaconEnabled = true) ↔
        plainBoot.air.pairingBeaconEnabled = true) :=
  pairing_flag_has_no_effect (romWorld plainRom) (romDongle plainRom) plainMac 0x2c [] rfl
    ⟨plainBoot, [], plainBoot_boots, rfl⟩

/-- The first data frame of a controller disables pairing on the host alone. -/
theorem disabled_shows_pairing :
    mt76WriteBeacon (romDongle plainRom) plainMac 0 0x2c [] =
        mt76WriteBeacon (romDongle plainRom) plainMac 1 0x2c [] ∧
      ∃ daemon, Reachable (romWorld plainRom) daemon ∧
        daemon.air.pairingBeaconEnabled = false ∧ daemon.air.ShowsPairing := by
  have hreach : Reachable (romWorld plainRom) (run (Daemon.step (romWorld plainRom)) plainBoot
      [addedStep]) := ⟨plainBoot, _, plainBoot_boots, rfl⟩
  exact ⟨rfl, _, hreach, by decide +kernel,
    (reachable_programmed (romWorld plainRom) hreach rfl).showsPairing⟩

end XoneDarwin
