import XoneDarwin.Daemon.Receive

/-!
# The process

Start-up in `main`, the housekeeping of `read_loop`, and the daemon as a machine
whose steps are received transfers and housekeeping passes. Clock readings are
part of a step's input.
-/

namespace XoneDarwin

open Machine (run)

variable (world : World)

/-! ## Housekeeping -/

/-- A call of `mt76_pairing_channel_scan` and the assignment of its result. -/
def pairingScan (scanNow : UInt64) (air : Air) : Air :=
  let scanned := mt76PairingChannelScan world.dongle scanNow air.scan air.usb
  { air with pairingChannel := scanned.1, scan := scanned.2.1, usb := scanned.2.2 }

/-- Does a pass at clock reading `now` get to the channel scan? -/
def Air.Scans (active : Nat) (now : UInt64) (air : Air) : Prop :=
  active = 0 ∧ world.env.forcedPairingChannel = 0 ∧ now ≥ air.channelLockUntilMs

instance (active : Nat) (now : UInt64) (air : Air) : Decidable (air.Scans world active now) :=
  inferInstanceAs (Decidable (_ ∧ _))

/-- The pairing check `read_loop` makes every two seconds with `active` slots in use. The
clock is read for the lock test and again inside the scan. -/
def pairingCheck (active : Nat) (now scanNow : UInt64) (air : Air) : Air :=
  if active = 0 then
    let enabled := if air.pairingBeaconEnabled then air else setPairingBeacon world true air
    if world.env.forcedPairingChannel ≠ 0 then enabled
    -- a request holds the channel until its lock has run out
    else if now ≥ enabled.channelLockUntilMs then pairingScan world scanNow enabled
    else enabled
  else if world.env.multiPairMode then setPairingBeacon world (active < maxSlots) air
  else air

/-- With no slot in use the check turns the pairing beacon on and may scan. -/
theorem pairingCheck_idle (now scanNow : UInt64) (air : Air) :
    pairingCheck world 0 now scanNow air =
      if world.env.forcedPairingChannel ≠ 0 then setPairingBeacon world true air
      else if now ≥ (setPairingBeacon world true air).channelLockUntilMs then
        pairingScan world scanNow (setPairingBeacon world true air)
      else setPairingBeacon world true air := by
  have henabled : (if air.pairingBeaconEnabled then air else setPairingBeacon world true air) =
      setPairingBeacon world true air := by
    split
    next hon => rw [setPairingBeacon, if_pos hon]
    next => rfl
  simp only [pairingCheck, if_true, henabled]

/-- A housekeeping pass. -/
def housekeeping (now scanNow : UInt64) (daemon : Daemon) : Daemon :=
  { daemon with
    air := pairingCheck world (activeSlotCount daemon.pads) now scanNow daemon.air }

/-! ## Steps -/

inductive Step
  | transfer (now : UInt64) (t : Transfer)
  | housekeeping (now scanNow : UInt64)

def Daemon.step (daemon : Daemon) : Step → Daemon
  | .transfer now t => handleTransfer world now t daemon
  | .housekeeping now scanNow => housekeeping world now scanNow daemon

/-! ## Start-up -/

/-- The globals when `main` has read the environment and probed HID support. -/
def mainStart : Daemon where
  pads := probeHidSupport world.host world.eventUdp {}
  air := { pairingChannel :=
    if world.env.forcedPairingChannel ≠ 0 then world.env.forcedPairingChannel else 0x2c }

/-- The forced channel is subtracted 12 before it goes to the radio. -/
def forcePairingChannel (air : Air) : Air :=
  if world.env.forcedPairingChannel ≠ 0 then
    let hwCh := world.env.forcedPairingChannel - 12
    let tuned := mt76ConfigureChannel world.dongle hwCh mcuChBw20 1 0x18 air.usb
    if tuned.1 = 0 then
      { air with usb := (mt76WriteBeacon world.dongle air.ourMac 1 hwCh tuned.2).2 }
    else { air with usb := tuned.2 }
  else air

/-- The adapter 0x02FE after its firmware upload. -/
def radioStart (usb : UsbLog) (daemon : Daemon) : Option Daemon :=
  let radio := mt76RadioInit world.dongle usb
  radio.1.map fun mac =>
    { daemon with
      air := forcePairingChannel world { daemon.air with ourMac := mac, usb := radio.2 } }

/-- `main` up to the start of the reader threads; `none` where it cleans up and exits, or
while the firmware upload has not ended after `rounds` iterations. -/
def mainInit (rounds : Nat) : Option Daemon :=
  let daemon := mainStart world
  match world.pid with
  | .v3 =>
      world.firmware.bind fun fw =>
        (mt76UploadFwDma world.dongle world.env.forceReload fw rounds []).bind fun uploaded =>
          if uploaded.1 ≠ 0 then none else radioStart world uploaded.2 daemon
  | _ => some daemon

/-- `main` gets to its read loop in state `daemon`. -/
def Boots (daemon : Daemon) : Prop :=
  ∃ rounds, mainInit world rounds = some daemon

/-- The state in which a world's daemon starts to read. -/
def bootOf (world : World) (hinit : (mainInit world 1).isSome) : Daemon :=
  (mainInit world 1).get hinit

theorem bootOf_boots (world : World) (hinit : (mainInit world 1).isSome) :
    Boots world (bootOf world hinit) :=
  ⟨1, (Option.some_get hinit).symm⟩

/-- The small dongle with fuses `rom`, a short firmware image and a host that creates every
device. -/
def romWorld (rom : Nat → UInt8) : World where
  pid := .v3
  dongle := romDongle rom
  host := ⟨fun _ _ _ => true⟩
  firmware := some tinyImage

/-- An address with the vendor's prefix. -/
def plainMac : Mac := ⟨0x62, 0x45, 0xbd, 0x11, 0x22, 0x33⟩

/-- Fuses that hold `plainMac`. -/
def plainRom (k : Nat) : UInt8 :=
  ([0x12, 0x76, 0, 0] ++ plainMac.bytes).getD k 0

/-- The start of the daemon on that adapter. -/
def plainBoot : Daemon := bootOf (romWorld plainRom) (by decide +kernel)

theorem plainBoot_boots : Boots (romWorld plainRom) plainBoot :=
  bootOf_boots _ _

theorem plainBoot_ourMac : plainBoot.air.ourMac = plainMac := by
  decide +kernel

/-- The states of all runs. -/
def Reachable (daemon : Daemon) : Prop :=
  ∃ boot steps, Boots world boot ∧ daemon = run (Daemon.step world) boot steps

end XoneDarwin
