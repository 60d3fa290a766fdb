import XoneDarwin.Daemon.Channel

/-!
# The address in the beacons

The address is read from EFUSE twice. Initialisation corrects the prefix only if
the first byte is foreign and falls back to a constant; the scan replaces the
prefix in any case and has no fallback. Its beacons are the only ones that do
not carry `g_our_mac` by construction.
-/

namespace XoneDarwin

open Machine (run Always Emits)

/-! ## The two readings -/

/-- The address the scan makes of the fuses. -/
def scanAddress (rom : Nat → UInt8) : Mac :=
  ⟨0x62, 0x45, 0xbd, rom 7, rom 8, rom 9⟩

/-- The address initialisation makes of them. -/
def initAddress (rom : Nat → UInt8) : Mac :=
  correctPrefix ⟨rom 4, rom 5, rom 6, rom 7, rom 8, rom 9⟩

theorem initAddress_eq_iff (rom : Nat → UInt8) :
    scanAddress rom = initAddress rom ↔ (rom 4 = 0x62 → rom 5 = 0x45 ∧ rom 6 = 0xbd) := by
  simp only [scanAddress, initAddress, correctPrefix]
  split
  next hforeign => exact iff_of_true rfl fun hown => absurd hown hforeign
  next hown =>
    rw [ne_eq, not_not] at hown
    simp only [hown, Mac.mk.injEq, true_and, and_true, forall_const]
    exact and_congr eq_comm eq_comm

section

variable {dongle : Dongle} {rom : Nat → UInt8} {phase : UsbLog → Prop} {log : UsbLog}

theorem mt76ReadMac_log (log : UsbLog) :
    (mt76ReadMac dongle log).2 = (mt76EfuseRead dongle mtEeMacAddr 6 log).2.2 := by
  simp only [mt76ReadMac]
  split <;> rfl

theorem mt76ReadMac_rom (hreads : dongle.ReadsEfuse rom phase)
    (hphase : ∀ middle, log <:+ middle → middle <:+ (mt76ReadMac dongle log).2 → phase middle) :
    (mt76ReadMac dongle log).1 = some (initAddress rom) := by
  rw [mt76ReadMac_log] at hphase
  obtain ⟨hcode, hbytes⟩ := mt76EfuseRead_rom dongle hreads (by decide) (by decide) hphase
  simp only [mt76ReadMac, hcode, hbytes, ne_eq, not_true, if_false]
  rfl

theorem mt76ReadMac_timeout (hfails : dongle.FailsEfuse phase)
    (hphase : ∀ middle, log <:+ middle → middle <:+ (mt76ReadMac dongle log).2 → phase middle) :
    (mt76ReadMac dongle log).1 = none := by
  rw [mt76ReadMac_log] at hphase
  have hcode : (mt76EfuseRead dongle mtEeMacAddr 6 log).1 = some (-1) :=
    (mt76EfuseRead_timeout dongle fun kicked hlow hhigh =>
      hfails kicked (hphase kicked hlow hhigh)).1
  simp [mt76ReadMac, hcode]

/-- Zeros have a foreign prefix. -/
theorem mt76ReadMac_drops (hdrops : dongle.DropsEfuse phase)
    (hphase : ∀ middle, log <:+ middle → middle <:+ (mt76ReadMac dongle log).2 → phase middle) :
    (mt76ReadMac dongle log).1 = some ⟨0x62, 0x45, 0xbd, 0, 0, 0⟩ := by
  rw [mt76ReadMac_log] at hphase
  obtain ⟨hcode, hbytes⟩ := mt76EfuseRead_drops dongle hdrops (by decide) hphase
  simp only [mt76ReadMac, hcode, hbytes, ne_eq, not_true, if_false]
  rfl

/-- Where EFUSE reads succeed the scan has its address, at the first call or a later one. -/
theorem scanMac_rom {start : UsbLog} (hreads : dongle.ReadsEfuse rom fun log => start <:+ log)
    (hlog : start <:+ log) {mac : Mac}
    (hmac : mac = ⟨0, 0, 0, 0, 0, 0⟩ ∨ mac = scanAddress rom) :
    (scanMac dongle mac log).1 = scanAddress rom := by
  rcases hmac with rfl | rfl
  · have hread : (mt76EfuseRead dongle 0x00 16 log).1 = some 0 ∧
        (mt76EfuseRead dongle 0x00 16 log).2.1 = romBytes rom 0 16 :=
      mt76EfuseRead_rom dongle hreads (by decide) (by decide)
        fun middle hlow _ => hlog.trans hlow
    obtain ⟨hcode, hbytes⟩ := hread
    simp only [scanMac, hcode, hbytes, if_true]
    rfl
  · have hhas : ¬(scanAddress rom).b0 = 0 := by
      change ¬(0x62 : UInt8) = 0
      decide
    simp only [scanMac, if_neg hhas]

end

/-! ## What is assumed of EFUSE -/

variable (world : World)

/-- The histories of the initialisation that ends in `boot`. -/
def DuringInit (boot : Daemon) (log : UsbLog) : Prop :=
  log <:+ boot.air.usb ∧ log.length < boot.air.usb.length

/-- Reads of the fuses `rom` succeed from the start of the run on; those during initialisation
have the outcome `atInit`. -/
structure EfuseReads (boot : Daemon) (rom : Nat → UInt8) (atInit : EfuseOutcome) : Prop where
  later : world.dongle.ReadsEfuse rom fun log => boot.air.usb <:+ log
  init : world.dongle.MeetsEfuse rom (DuringInit boot) atInit

/-- The address that initialisation comes to. -/
def bootAddress (rom : Nat → UInt8) : EfuseOutcome → Mac
  | .works => initAddress rom
  | .timesOut => fallbackMac
  | .drops => ⟨0x62, 0x45, 0xbd, 0, 0, 0⟩

/-- The fuses lead both readings to one address. Only the 0x02FE adapter is initialised, any other
starts with the fallback address. -/
def AddressesAgree (rom : Nat → UInt8) (atInit : EfuseOutcome) : Prop :=
  match if world.pid = .v3 then atInit else .timesOut with
  | .works => rom 4 = 0x62 → rom 5 = 0x45 ∧ rom 6 = 0xbd
  | .timesOut => rom 7 = 0x01 ∧ rom 8 = 0x02 ∧ rom 9 = 0x03
  | .drops => rom 7 = 0x00 ∧ rom 8 = 0x00 ∧ rom 9 = 0x00

/-- The address the daemon starts with. -/
theorem boots_ourMac {boot : Daemon} (hboot : Boots world boot) {rom : Nat → UInt8}
    {atInit : EfuseOutcome} (hefuse : EfuseReads world boot rom atInit) :
    boot.air.ourMac = bootAddress rom (if world.pid = .v3 then atInit else .timesOut) := by
  by_cases hpid : world.pid = .v3
  · obtain ⟨log, mac, final, -, hinit, hair⟩ := boots_radio world hboot hpid
    obtain ⟨early, tuned, status, status', -, hmac, htuned, hfinal⟩ :=
      mt76RadioInit_log world.dongle hinit
    obtain ⟨hsame, -, hsuffix⟩ := forcePairingChannel_rest world
      { (mainStart world).air with ourMac := mac, usb := final }
    rw [← hair] at hsuffix
    -- the read lies within the initialisation, whose last entries are a switch and a beacon
    have hinside : ∀ middle, early <:+ middle →
        middle <:+ (mt76ReadMac world.dongle early).2 → DuringInit boot middle := by
      intro middle _ hhigh
      have hread := hhigh.trans htuned.suffix
      have hlast := hfinal.suffix.trans hsuffix
      refine ⟨(hread.trans ((List.suffix_cons _ _).trans (List.suffix_cons _ _))).trans hlast, ?_⟩
      have hlength := hlast.length_le
      rw [List.length_cons, List.length_cons] at hlength
      exact lt_of_le_of_lt hread.length_le (by omega)
    rw [hair, hsame, hmac, radioMac, if_pos hpid]
    cases atInit with
    | works =>
        rw [mt76ReadMac_rom hefuse.init hinside]
        rfl
    | timesOut =>
        rw [mt76ReadMac_timeout hefuse.init hinside]
        rfl
    | drops =>
        rw [mt76ReadMac_drops hefuse.init hinside]
        rfl
  · rw [boots_quiet world hboot hpid, if_neg hpid]
    rfl

theorem addressesAgree_iff {boot : Daemon} (hboot : Boots world boot) {rom : Nat → UInt8}
    {atInit : EfuseOutcome} (hefuse : EfuseReads world boot rom atInit) :
    scanAddress rom = boot.air.ourMac ↔ AddressesAgree world rom atInit := by
  rw [boots_ourMac world hboot hefuse, AddressesAgree]
  cases if world.pid = .v3 then atInit else .timesOut with
  | works => exact initAddress_eq_iff rom
  | timesOut => simp only [bootAddress, scanAddress, fallbackMac, Mac.mk.injEq, true_and]
  | drops => simp only [bootAddress, scanAddress, Mac.mk.injEq, true_and]

theorem boots_scan {boot : Daemon} (hboot : Boots world boot) : boot.air.scan = {} := by
  by_cases hpid : world.pid = .v3
  · obtain ⟨log, mac, final, -, -, hair⟩ := boots_radio world hboot hpid
    rw [hair, (forcePairingChannel_rest world _).2.1]
    rfl
  · rw [boots_quiet world hboot hpid]
    rfl

/-! ## Beacons of a run -/

/-- Source and BSSID of the beacon an entry writes, if it does, are `mac`. -/
def UsbIo.BeaconFrom (mac : Mac) (io : UsbIo) : Prop :=
  ∀ beacon, io.beacon? = some beacon → beacon.source = mac ∧ beacon.bssid = mac

/-- Every beacon written so far carries the address frames are compared with. -/
def Daemon.OneBssid (daemon : Daemon) : Prop :=
  ∀ io ∈ daemon.air.usb, io.BeaconFrom daemon.air.ourMac

/-- Does a step switch the channel? -/
def Step.Switches (daemon : Daemon) (step : Step) : Prop :=
  step.Scans world daemon ∧ daemon.air.scan.Due step.scanClock

theorem UsbIo.beaconFrom_of_none {mac : Mac} {io : UsbIo} (hnone : io.beacon? = none) :
    io.BeaconFrom mac := by
  intro beacon hbeacon
  rw [hnone] at hbeacon
  cases hbeacon

theorem UsbIo.Routine.beaconFrom {mac : Mac} {channel : UInt8} {io : UsbIo}
    (hio : io.Routine mac channel) : io.BeaconFrom mac := by
  intro beacon hbeacon
  rw [hio.beacon? hbeacon]
  exact ⟨rfl, rfl⟩

theorem beaconIo_from (mac : Mac) (channel : UInt8) (status : UsbStatus) :
    (beaconIo mac channel status).BeaconFrom mac :=
  (beaconIo_routine mac channel status).beaconFrom

theorem beaconIo_from_iff {mac other : Mac} {channel : UInt8} {status : UsbStatus} :
    (beaconIo mac channel status).BeaconFrom other ↔ mac = other := by
  constructor
  · exact fun hfrom => (hfrom _ (beaconIo_beacon mac channel status)).1
  · rintro rfl
    exact beaconIo_from mac channel status

theorem Emits.beaconFrom {before after : UsbLog} (mac : Mac)
    (hemits : Emits UsbIo.Housework before after) :
    Emits (UsbIo.BeaconFrom mac) before after :=
  hemits.mono fun _ hio => UsbIo.beaconFrom_of_none hio.beacon?

theorem boots_oneBssid {boot : Daemon} (hboot : Boots world boot) : boot.OneBssid := by
  have hemits : Emits (UsbIo.BeaconFrom boot.air.ourMac) [] boot.air.usb :=
    boots_emits world hboot (fun io hio => UsbIo.beaconFrom_of_none (by
        rw [UsbIo.beacon?, hio.beaconProgram?]
        rfl))
      fun channel status => beaconIo_from _ channel status
  exact hemits.forall_mem fun io hio => absurd hio List.not_mem_nil

/-! ## Runs -/

/-- What holds in a run whatever the addresses are. -/
structure Reading (boot : Daemon) (rom : Nat → UInt8) (daemon : Daemon) : Prop where
  wf : daemon.table.WF
  ourMac : daemon.air.ourMac = boot.air.ourMac
  started : boot.air.usb <:+ daemon.air.usb
  mac : daemon.air.scan.mac = ⟨0, 0, 0, 0, 0, 0⟩ ∨ daemon.air.scan.mac = scanAddress rom

section

variable {world} {boot daemon : Daemon} {rom : Nat → UInt8} {atInit : EfuseOutcome}

theorem boots_reading (hboot : Boots world boot) : Reading boot rom boot where
  wf := boots_wf world hboot
  ourMac := rfl
  started := List.suffix_rfl
  mac := Or.inl (by rw [boots_scan world hboot])

/-- A scan: it has its address afterwards, switches if it is due, and then its beacon carries
that address. -/
theorem scan_beacons (hefuse : EfuseReads world boot rom atInit) {air : Air}
    (hstarted : boot.air.usb <:+ air.usb)
    (hmac : air.scan.mac = ⟨0, 0, 0, 0, 0, 0⟩ ∨ air.scan.mac = scanAddress rom)
    (scanNow : UInt64) :
    (pairingScan world scanNow air).scan.mac = scanAddress rom ∧
      (¬air.scan.Due scanNow →
        Emits (UsbIo.BeaconFrom air.ourMac) air.usb (pairingScan world scanNow air).usb) ∧
      (air.scan.Due scanNow → ∃ channel status,
        beaconIo (scanAddress rom) channel status ∈ (pairingScan world scanNow air).usb ∧
        Emits (UsbIo.BeaconFrom (scanAddress rom)) air.usb (pairingScan world scanNow air).usb) := by
  have hread := scanMac_rom hefuse.later hstarted hmac
  have hctrl := Emits.housework (scanMac_ctrl world.dongle air.scan.mac air.usb)
  obtain ⟨hidle, hdue⟩ := mt76PairingChannelScan_log world.dongle scanNow air.scan air.usb
  by_cases hnow : air.scan.Due scanNow
  · obtain ⟨status, status', hlog, -, hstate⟩ := hdue hnow
    -- the scan goes on only with an address, and this one starts with 0x62
    have hhas : (scanMac world.dongle air.scan.mac air.usb).1.b0 ≠ 0 := by
      rw [hread]
      change (0x62 : UInt8) ≠ 0
      decide
    rw [if_pos hhas, hread] at hlog
    have hmac' : (pairingScan world scanNow air).scan.mac = scanAddress rom :=
      (congrArg ScanState.mac hstate).trans hread
    refine ⟨hmac', fun hnot => absurd hnow hnot, fun _ =>
      ⟨scanChannel (air.scan.chIdx + 1), status', ?_, ?_⟩⟩
    · exact hlog.suffix.subset List.mem_cons_self
    · exact (((Emits.beaconFrom _ hctrl).cons (UsbIo.beaconFrom_of_none
        (switchIo_beacon _ _ _ _ status))).cons (beaconIo_from _ _ status')).trans
        (Emits.beaconFrom _ hlog)
  · obtain ⟨hlog, -, hstate⟩ := hidle hnow
    have hmac' : (pairingScan world scanNow air).scan.mac = scanAddress rom :=
      (congrArg ScanState.mac hstate).trans hread
    exact ⟨hmac', fun _ => Emits.beaconFrom _ (Emits.housework hlog), fun h => absurd h hnow⟩

/-- A step keeps what holds in a run; its beacons carry the scan's address if it switches the
channel, and the daemon's if not. -/
theorem Reading.step (hefuse : EfuseReads world boot rom atInit)
    (hreading : Reading boot rom daemon) (step : Step) :
    Reading boot rom (daemon.step world step) ∧
      (¬step.Switches world daemon →
        Emits (UsbIo.BeaconFrom boot.air.ourMac) daemon.air.usb
          (daemon.step world step).air.usb) ∧
      (step.Switches world daemon →
        (∃ channel status,
          beaconIo (scanAddress rom) channel status ∈ (daemon.step world step).air.usb) ∧
        (scanAddress rom = boot.air.ourMac → Emits (UsbIo.BeaconFrom boot.air.ourMac)
          daemon.air.usb (daemon.step world step).air.usb)) := by
  obtain ⟨hwf, hmac, hstarted, hscanMac⟩ := hreading
  have hwf' := step_wf world hwf step
  have hmac' := (step_ourMac world hwf step).trans hmac
  rcases step_air world hwf step with ⟨hnot, sends, hsends⟩ | ⟨hscans, enabled, hsends, hscan⟩
  -- a step without a scan only sends what `g_our_mac` stands in
  · have hroutine := hsends.emits.mono fun _ hio => hio.beaconFrom
    rw [hmac] at hroutine
    refine ⟨⟨hwf', hmac', hstarted.trans hsends.emits.suffix, ?_⟩, fun _ => hroutine,
      fun hswitches => absurd hswitches.1 hnot⟩
    rw [hsends.scan]
    exact hscanMac
  · have hroutine := hsends.emits.mono fun _ hio => hio.beaconFrom
    have henabled := hstarted.trans hsends.emits.suffix
    obtain ⟨hread, hidle, hdue⟩ := scan_beacons hefuse henabled (hsends.scan ▸ hscanMac)
      step.scanClock
    rw [hmac] at hroutine
    rw [hsends.ourMac, hmac, hsends.scan] at hidle
    rw [hsends.scan] at hdue
    rw [hscan] at hmac' ⊢
    have hlonger : enabled.usb <:+ (pairingScan world step.scanClock enabled).usb := by
      by_cases hnow : daemon.air.scan.Due step.scanClock
      · obtain ⟨channel, status, -, hemits⟩ := hdue hnow
        exact hemits.suffix
      · exact (hidle hnow).suffix
    refine ⟨⟨hwf', hscan ▸ hmac', ?_, Or.inr (hscan ▸ hread)⟩, ?_, ?_⟩
    · rw [hscan]
      exact henabled.trans hlonger
    · exact fun hswitches => hroutine.trans (hidle fun hnow => hswitches ⟨hscans, hnow⟩)
    · intro hfirst
      obtain ⟨-, hnow⟩ := hfirst
      obtain ⟨channel, status, hbeacon, hemits⟩ := hdue hnow
      exact ⟨⟨channel, status, hbeacon⟩, fun hagree => hroutine.trans (hagree ▸ hemits)⟩

theorem Reading.run (hefuse : EfuseReads world boot rom atInit)
    (hreading : Reading boot rom daemon) (steps : List Step) :
    Reading boot rom (run (Daemon.step world) daemon steps) :=
  Machine.run_invariant (Reading boot rom) (fun _ step hreading => (hreading.step hefuse step).1)
    hreading steps

/-- A log only grows. -/
theorem run_suffix (hwf : daemon.table.WF) (steps : List Step) :
    daemon.air.usb <:+ (Machine.run (Daemon.step world) daemon steps).air.usb := by
  refine (Machine.run_invariant (fun state : Daemon =>
    state.table.WF ∧ daemon.air.usb <:+ state.air.usb) ?_ ⟨hwf, List.suffix_rfl⟩ steps).2
  intro state step hinv
  obtain ⟨hwf, hsuffix⟩ := hinv
  exact ⟨step_wf world hwf step, hsuffix.trans (step_encoded world hwf step).suffix⟩

/-- All beacons of a run carry `g_our_mac` if and only if the fuses lead both readings to one
address or no housekeeping pass of the run switches the channel. -/
theorem oneBssid_iff (hboot : Boots world boot) (hefuse : EfuseReads world boot rom atInit)
    (steps : List Step) :
    (Machine.run (Daemon.step world) boot steps).OneBssid ↔
      AddressesAgree world rom atInit ∨
        Always (Daemon.step world) (fun daemon step => ¬step.Switches world daemon) boot steps := by
  rw [← addressesAgree_iff world hboot hefuse]
  have hstart : Reading boot rom boot := boots_reading hboot
  constructor
  · intro hone
    refine or_iff_not_imp_right.mpr fun hswitching => ?_
    simp only [Always, not_forall, not_not] at hswitching
    -- the beacon of the first switch stays in the log, and gives the addresses away
    obtain ⟨before, step, after, hsplit, hswitches⟩ := hswitching
    have hreading := hstart.run hefuse before
    obtain ⟨⟨channel, status, hbeacon⟩, -⟩ := (hreading.step hefuse step).2.2 hswitches
    have hlater : _ <:+ (Machine.run (Daemon.step world) _ after).air.usb :=
      run_suffix (hreading.step hefuse step).1.wf after
    rw [← Machine.run_cons, ← Machine.run_append, ← hsplit] at hlater
    have hfrom := hone _ (hlater.subset hbeacon)
    rw [(hstart.run hefuse steps).ourMac] at hfrom
    exact beaconIo_from_iff.mp hfrom
  · intro hcases
    have hfinal := (hstart.run hefuse steps).ourMac
    rw [Daemon.OneBssid, hfinal]
    rcases hcases with hagree | hquiet
    · refine (Machine.run_invariant (fun state : Daemon => Reading boot rom state ∧
        ∀ io ∈ state.air.usb, io.BeaconFrom boot.air.ourMac) ?_
        ⟨hstart, boots_oneBssid world hboot⟩ steps).2
      intro state step hinv
      obtain ⟨hreading, hall⟩ := hinv
      obtain ⟨hreading', hidle, hswitching⟩ := hreading.step hefuse step
      refine ⟨hreading', ?_⟩
      by_cases hswitches : step.Switches world state
      · exact ((hswitching hswitches).2 hagree).forall_mem hall
      · exact (hidle hswitches).forall_mem hall
    · refine (Machine.run_invariant_of_always (fun state : Daemon => Reading boot rom state ∧
        ∀ io ∈ state.air.usb, io.BeaconFrom boot.air.ourMac) ?_
        ⟨hstart, boots_oneBssid world hboot⟩ hquiet).2
      intro state step hinv hnot
      obtain ⟨hreading, hall⟩ := hinv
      obtain ⟨hreading', hidle, -⟩ := hreading.step hefuse step
      exact ⟨hreading', (hidle hnot).forall_mem hall⟩

end

/-- Initialisation is over: it reads the BSSID last. -/
def initEnded (log : UsbLog) : Bool :=
  log.any fun
    | .ctrlRead addr _ _ => addr == mtMacBssidDw0
    | _ => false

/-- `romDongle` with an EFUSE that works from then on. Before, the kick bit stays set or the data
registers cannot be read. -/
def lateDongle (rom : Nat → UInt8) (atInit : EfuseOutcome) : Dongle :=
  { romDongle rom with
    ctrlRead := fun log addr req =>
      if initEnded log = false ∧ atInit = .timesOut ∧ addr = mtEfuseCtrl then some 0x40000000
      else if initEnded log = false ∧ atInit = .drops ∧ addr ∈ [0x28, 0x2c, 0x30, 0x34] then none
      else (romDongle rom).ctrlRead log addr req }

theorem initEnded_of_suffix {log later : UsbLog} (hsuffix : log <:+ later)
    (hended : initEnded log = true) : initEnded later = true := by
  obtain ⟨io, hio, hread⟩ := List.any_eq_true.mp hended
  exact List.any_eq_true.mpr ⟨io, hsuffix.mem hio, hread⟩

section

variable (rom : Nat → UInt8) {phase : UsbLog → Prop}

theorem lateDongle_works {atInit : EfuseOutcome}
    (hphase : ∀ log, phase log → initEnded log = true ∨ atInit = .works) :
    (lateDongle rom atInit).ReadsEfuse rom phase := by
  have hsame (log : UsbLog) (hlog : phase log) :
      (lateDongle rom atInit).ctrlRead log = (romDongle rom).ctrlRead log := by
    funext addr req
    rcases hphase log hlog with hended | rfl
    · simp only [lateDongle, hended, Bool.true_eq_false, false_and, if_false]
    · simp only [lateDongle, reduceCtorEq, false_and, and_false, if_false]
  constructor
  · intro log hlog
    have hread : (lateDongle rom atInit).ctrlRead log mtEfuseCtrl mtVendMultiRead = some 0 := by
      rw [hsame log hlog]
      rfl
    have hdone : (mt76PollEfuseKick (lateDongle rom atInit) log).1 = false := by
      simp only [mt76PollEfuseKick, mt76CtrlRead, hread, Option.getD_some]
      decide
    simp [mt76Poll, mt76PollLoop, hdone]
  · intro log hlog block hblock word
    rw [hsame log hlog]
    exact (romDongle_readsEfuse rom phase).data log hlog block hblock word

theorem lateDongle_drops (hphase : ∀ log, phase log → initEnded log = false) :
    (lateDongle rom .drops).DropsEfuse phase where
  kick log _ := by
    have hread : (lateDongle rom .drops).ctrlRead log mtEfuseCtrl mtVendMultiRead = some 0 := by
      have hctrl : mtEfuseCtrl ∉ ([0x28, 0x2c, 0x30, 0x34] : List UInt16) := by decide
      simp only [lateDongle, hctrl, reduceCtorEq, false_and, and_false, if_false]
      rfl
    have hdone : (mt76PollEfuseKick (lateDongle rom .drops) log).1 = false := by
      simp only [mt76PollEfuseKick, mt76CtrlRead, hread, Option.getD_some]
      decide
    simp [mt76Poll, mt76PollLoop, hdone]
  data log hlog word := by
    have hdata : ∀ word : Fin 4, mtEfuseDataBase + 4 * UInt16.ofNat word ∈
        ([0x28, 0x2c, 0x30, 0x34] : List UInt16) := by decide
    simp only [lateDongle, hphase log hlog, hdata word, reduceCtorEq, false_and, and_false,
      if_false, and_self, if_true]

/-- The polls do not end initialisation either. -/
theorem lateDongle_timesOut (hphase : ∀ log, phase log → initEnded log = false) :
    (lateDongle rom .timesOut).FailsEfuse phase := by
  have hloop (attempts : Nat) (log : UsbLog) (hlog : initEnded log = false) :
      (mt76PollLoop (mt76PollEfuseKick (lateDongle rom .timesOut)) attempts log).1 ≠ 0 := by
    induction attempts generalizing log with
    | zero => exact (by decide : (-1 : Int) ≠ 0)
    | succ attempts ih =>
        have hread : (lateDongle rom .timesOut).ctrlRead log mtEfuseCtrl mtVendMultiRead =
            some 0x40000000 := by
          simp only [lateDongle, hlog, and_self, if_true]
        have hpoll : mt76PollEfuseKick (lateDongle rom .timesOut) log =
            (true, .ctrlRead mtEfuseCtrl mtVendMultiRead (some 0x40000000) :: log) := by
          simp only [mt76PollEfuseKick, mt76CtrlRead, hread, Option.getD_some]
          rfl
        rw [mt76PollLoop, hpoll, if_pos rfl]
        refine ih _ ?_
        rw [initEnded, List.any_cons, ← initEnded, hlog]
        rfl
  exact fun log hlog => hloop 200 log (hphase log hlog)

end

def lateWorld (atInit : EfuseOutcome) : World :=
  { romWorld plainRom with dongle := lateDongle plainRom atInit }

theorem lateWorld_init (atInit : EfuseOutcome) : (mainInit (lateWorld atInit) 1).isSome := by
  cases atInit <;> decide +kernel

def lateBoot (atInit : EfuseOutcome) : Daemon :=
  bootOf (lateWorld atInit) (lateWorld_init atInit)

theorem lateBoot_boots (atInit : EfuseOutcome) : Boots (lateWorld atInit) (lateBoot atInit) :=
  bootOf_boots _ _

/-- The reads of all three kinds of start. -/
theorem lateBoot_reads (atInit : EfuseOutcome) :
    EfuseReads (lateWorld atInit) (lateBoot atInit) plainRom atInit := by
  have hlast : initEnded (lateBoot atInit).air.usb = true := by
    cases atInit <;> decide +kernel
  have hbefore : initEnded (lateBoot atInit).air.usb.tail = false := by
    cases atInit <;> decide +kernel
  have hduring (log : UsbLog) (hlog : DuringInit (lateBoot atInit) log) :
      initEnded log = false := by
    by_contra hended
    rw [Bool.not_eq_false] at hended
    obtain ⟨hsuffix, hlength⟩ := hlog
    have htail : log <:+ (lateBoot atInit).air.usb.tail := by
      cases hlog : (lateBoot atInit).air.usb with
      | nil => simp [hlog] at hlength
      | cons io older =>
          rw [hlog] at hsuffix hlength
          rcases List.suffix_cons_iff.mp hsuffix with rfl | holder
          · exact absurd hlength (Nat.lt_irrefl _)
          · exact holder
    rw [initEnded_of_suffix htail hended] at hbefore
    cases hbefore
  refine ⟨lateDongle_works plainRom fun log hlog => Or.inl (initEnded_of_suffix hlog hlast), ?_⟩
  cases atInit with
  | works => exact lateDongle_works plainRom fun _ _ => Or.inr rfl
  | timesOut => exact lateDongle_timesOut plainRom hduring
  | drops => exact lateDongle_drops plainRom hduring

theorem oneBssid_iff_plain :
    ((Machine.run (Daemon.step (lateWorld .works)) (lateBoot .works)
        [.housekeeping 0 3000]).OneBssid ↔
      AddressesAgree (lateWorld .works) plainRom .works ∨
        Always (Daemon.step (lateWorld .works))
          (fun daemon step => ¬step.Switches (lateWorld .works) daemon) (lateBoot .works)
          [.housekeeping 0 3000]) ∧
    ((Machine.run (Daemon.step (lateWorld .timesOut)) (lateBoot .timesOut)
        [.housekeeping 0 3000]).OneBssid ↔
      AddressesAgree (lateWorld .timesOut) plainRom .timesOut ∨
        Always (Daemon.step (lateWorld .timesOut))
          (fun daemon step => ¬step.Switches (lateWorld .timesOut) daemon) (lateBoot .timesOut)
          [.housekeeping 0 3000]) ∧
    ((Machine.run (Daemon.step (lateWorld .drops)) (lateBoot .drops)
        [.housekeeping 0 3000]).OneBssid ↔
      AddressesAgree (lateWorld .drops) plainRom .drops ∨
        Always (Daemon.step (lateWorld .drops))
          (fun daemon step => ¬step.Switches (lateWorld .drops) daemon) (lateBoot .drops)
          [.housekeeping 0 3000]) :=
  ⟨oneBssid_iff (lateBoot_boots .works) (lateBoot_reads .works) _,
    oneBssid_iff (lateBoot_boots .timesOut) (lateBoot_reads .timesOut) _,
    oneBssid_iff (lateBoot_boots .drops) (lateBoot_reads .drops) _⟩

/-- Fuses whose first byte has the vendor's prefix and whose second has not. -/
def halfRom (k : Nat) : UInt8 :=
  [0x12, 0x76, 0, 0, 0x62, 0x00, 0x00, 0x11, 0x22, 0x33].getD k 0

def halfBoot : Daemon := bootOf (romWorld halfRom) (by decide +kernel)

/-- The first scan advertises another network than the one the daemon answers for. -/
theorem half_not_oneBssid :
    Boots (romWorld halfRom) halfBoot ∧ EfuseReads (romWorld halfRom) halfBoot halfRom .works ∧
      ¬(Machine.run (Daemon.step (romWorld halfRom)) halfBoot [.housekeeping 0 3000]).OneBssid := by
  refine ⟨bootOf_boots _ _, ⟨romDongle_readsEfuse halfRom _, romDongle_readsEfuse halfRom _⟩, ?_⟩
  have hlatest : (Machine.run (Daemon.step (romWorld halfRom)) halfBoot
      [.housekeeping 0 3000]).air.usb.findSome? UsbIo.beacon? =
        some ⟨⟨0x62, 0x45, 0xbd, 0x11, 0x22, 0x33⟩, ⟨0x62, 0x45, 0xbd, 0x11, 0x22, 0x33⟩, 0x28⟩ := by
    decide +kernel
  have hours : (Machine.run (Daemon.step (romWorld halfRom)) halfBoot
      [.housekeeping 0 3000]).air.ourMac = ⟨0x62, 0x00, 0x00, 0x11, 0x22, 0x33⟩ := by decide +kernel
  obtain ⟨io, hio, hbeacon⟩ := List.exists_of_findSome?_eq_some hlatest
  intro hone
  have hsource := (hone io hio _ hbeacon).1
  rw [hours] at hsource
  exact absurd hsource (by decide)

end XoneDarwin
