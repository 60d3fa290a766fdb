import XoneDarwin.Daemon.Main
import XoneDarwin.Machine.Ledger

/-!
# From the start of `main` to its end

`main` with the stages it goes through before the reader threads start, and its cleanup,
as calls on what it opens: the event socket, the USB context, device lists, the handle of
the dongle, its configuration, the firmware file. How each call turns out, and when a signal
clears `g_running`, is up to the outside.
-/

namespace XoneDarwin.Launch

open Machine (Attempt)
open CString

/-! ## Calls -/

/-- A `libusb_device_handle`: when it was opened, and for which product. -/
structure Handle where
  serial : Nat
  product : Pid
  deriving DecidableEq

/-- `g_reader1` and `g_reader2`. -/
inductive Thread
  | reader1
  | reader2
  deriving DecidableEq

/-- The calls of `main`, with their outcomes. A pointer that may be null is an option. -/
inductive Call
  | openSocket (ok : Bool)
  | closeSocket
  | usbInit (ok : Bool)
  | usbExit
  | getDeviceList (ok : Bool)
  | freeDeviceList
  | openDevice (product : Pid) (handle : Option Handle)
  | closeDevice (handle : Option Handle)
  | resetDevice (handle : Option Handle) (ok : Bool)
  | kernelDriverActive (handle : Option Handle) (active : Bool)
  | detachKernelDriver (handle : Option Handle)
  | setConfiguration (handle : Option Handle)
  | claimInterface (handle : Option Handle) (ok : Bool)
  | releaseInterface (handle : Option Handle)
  | getConfigDescriptor (handle : Option Handle) (ok : Bool)
  | freeConfigDescriptor
  | getDeviceDescriptor (handle : Option Handle)
  | openFile (ok : Bool)
  | closeFile
  | malloc (ok : Bool)
  | readFile (ok : Bool)
  | free
  /-- the control and bulk transfers of one stage -/
  | transfers (handle : Option Handle)
  | createThread (thread : Thread) (ep : UInt8) (ok : Bool)
  | joinThread (thread : Thread)
  | sleep
  deriving DecidableEq

/-- `libusb_endpoint_descriptor`, as far as `find_endpoints` reads it. -/
structure Endpoint where
  bmAttributes : UInt8
  bEndpointAddress : UInt8

/-- `libusb_config_descriptor`: the interfaces, their alternate settings, their endpoints. -/
abbrev ConfigDescriptor := List (List (List Endpoint))

/-- What `main` finds outside. The outcome of a call and the value of `g_running` may depend
on every call before. -/
structure Outside where
  dongle : Dongle
  host : Host
  env : Env := {}
  xboxEventUdp : Option (List Char) := none
  xboxUsbResetOnStart : Option (List Char) := none
  inetPton : List Char → Bool
  succeeds : List Call → Bool
  running : List Call → Bool
  config : ConfigDescriptor
  firmwareFile : List UInt8

/-- The globals that the reader threads work with. -/
structure Globals where
  epIn : UInt8 := 0
  epIn2 : UInt8 := 0
  epOut : UInt8 := 0
  daemon : Daemon := {}

/-- What `main` keeps, and its calls so far, newest first. -/
structure State where
  log : List Call := []
  opened : Nat := 0
  socket : Bool := false
  dev : Option Handle := none
  globals : Globals := {}

/-- How a stage ends. -/
inductive Exit
  /-- the next statement -/
  | reached
  /-- `goto cleanup` -/
  | cleanup
  /-- `return 1` -/
  | failed
  /-- a loop has not ended yet -/
  | waiting
  deriving DecidableEq

/-- Stages of `main`. -/
abbrev Stage := Attempt Exit State

def State.call (call : Call) (s : State) : State :=
  { s with log := call :: s.log }

section

variable (outside : Outside)

/-- What the next call returns. -/
def State.outcome (s : State) : Bool :=
  outside.succeeds s.log

/-- `g_running`, read now. -/
def State.running (s : State) : Bool :=
  outside.running s.log

/-- A statement that does not leave `main`. -/
def step (f : State → State) : Stage := fun s => (.reached, f s)

/-! ## The event socket -/

/-- `%d` of `sscanf`. -/
def scanInt (text : List Char) : Option Int :=
  (strtol text).map fun number => toInt number.1

/-- The address and the port in the value of `XBOX_EVENT_UDP`: `"%63[^:]:%d"` with a colon,
else `"%d"`. -/
def eventTarget (cfg : List Char) : Option (List Char × Int) :=
  if ':' ∈ cfg then
    let ip := (cfg.takeWhile (· ≠ ':')).take 63
    match ip, cfg.drop ip.length with
    | _ :: _, ':' :: number => (scanInt number).map fun port => (ip, port)
    | _, _ => none
  else (scanInt cfg).map fun port => ("127.0.0.1".toList, port)

/-- An address of at most 63 characters and a port are read as they are printed. -/
theorem eventTarget_print {ip : List Char} (hne : ip ≠ []) (hlength : ip.length ≤ 63)
    (hcolon : ':' ∉ ip) {port : Int} (hlow : -0x80000000 ≤ port) (hhigh : port < 0x80000000) :
    eventTarget (ip ++ ':' :: printInt port) = some (ip, port) := by
  have htake : ((ip ++ ':' :: printInt port).takeWhile (· ≠ ':')).take 63 = ip := by
    have hall : ∀ c ∈ ip, decide (c ≠ ':') = true :=
      fun c hc => decide_eq_true fun heq => hcolon (heq ▸ hc)
    rw [List.takeWhile_append_of_pos hall, List.takeWhile_cons_of_neg (by decide),
      List.append_nil, List.take_of_length_le hlength]
  have hread : strtol (printInt port ++ []) = some (port, []) :=
    strtol_printInt (by omega) (by omega) fun c hc => nomatch hc
  have hscan : scanInt (printInt port) = some port := by
    rw [List.append_nil] at hread
    rw [scanInt, hread, Option.map_some, toInt_of_range hlow hhigh]
  unfold eventTarget
  rw [if_pos (List.mem_append_right ip List.mem_cons_self)]
  dsimp only
  rw [htake, List.drop_left]
  cases ip with
  | nil => exact absurd rfl hne
  | cons c rest => exact congrArg (Option.map fun port => (c :: rest, port)) hscan

/-- `init_event_udp_from_env`. -/
def initEventUdpFromEnv (s : State) : State :=
  match outside.xboxEventUdp.bind eventTarget with
  -- also where the variable is empty: no number can be read from it
  | none => s
  | some (ip, port) =>
      if port < 1 ∨ port > 65535 then s
      else
        let made := s.call (.openSocket (s.outcome outside))
        if !s.outcome outside then made
        else if !outside.inetPton ip then made.call .closeSocket
        else { made with socket := true }

/-! ## The USB context and the device list -/

/-- `libusb_init`. -/
def initUsb : Stage := fun s =>
  (if s.outcome outside then .reached else .failed, s.call (.usbInit (s.outcome outside)))

/-- `list_usb_devices`. The list is given back whether or not there is one. -/
def listUsbDevices (s : State) : State :=
  (s.call (.getDeviceList (s.outcome outside))).call .freeDeviceList

/-- The world of the daemon behind an adapter. -/
def Outside.world (product : Pid) (socket : Bool) : World where
  pid := product
  dongle := outside.dongle
  host := outside.host
  env := outside.env
  eventUdp := socket
  firmware := some outside.firmwareFile

/-- `probe_hid_support`, on the globals as `main` has set them by then. -/
def probeHid (s : State) : State :=
  { s with globals := { s.globals with daemon := mainStart (outside.world .v1 s.socket) } }

/-! ## The dongle -/

/-- The loop of `open_dongle` over the product ids. -/
def openFirst : List Pid → State → Option Handle × State
  | [], s => (none, s)
  | product :: rest, s =>
      if s.outcome outside then
        let handle : Handle := ⟨s.opened, product⟩
        (some handle,
          { s.call (.openDevice product (some handle)) with opened := s.opened + 1 })
      else openFirst rest (s.call (.openDevice product none))

/-- `g_dev = open_dongle()`. -/
def openDongle (s : State) : State :=
  let result := openFirst outside [.v1, .v2, .v3] s
  { result.2 with dev := result.1 }

/-- The loop that waits for the dongle. -/
def waitForDongle : Nat → Stage
  | 0, s => (.waiting, s)
  | rounds + 1, s =>
      if s.running outside then
        let tried := openDongle outside s
        if tried.dev.isSome then (.reached, tried)
        else waitForDongle rounds (listUsbDevices outside (tried.call .sleep))
      else (.reached, s)

/-- `if (!g_running) goto cleanup`. -/
def checkRunning : Stage := fun s =>
  (if s.running outside then .reached else .cleanup, s)

/-- The loop that opens the dongle again after the reset. -/
def reopenDongle : Nat → State → State
  | 0, s => s
  | attempts + 1, s =>
      if s.running outside ∧ s.dev = none then
        let tried := openDongle outside s
        reopenDongle attempts (if tried.dev = none then tried.call .sleep else tried)
      else s

/-- `g_usb_reset_on_start`. -/
def Outside.usbResetOnStart : Bool :=
  outside.xboxUsbResetOnStart ≠ some ['0']

/-- The reset, after which the dongle is opened anew. -/
def resetDongle : Stage := fun s =>
  if outside.usbResetOnStart then
    let reset := s.call (.resetDevice s.dev (s.outcome outside))
    if s.outcome outside then
      let closed := { reset.call (.closeDevice s.dev) with dev := none }
      let reopened := reopenDongle outside 30 (closed.call .sleep)
      (if reopened.dev = none then .cleanup else .reached, reopened)
    else (.reached, reset)
  else (.reached, s)

/-- `libusb_kernel_driver_active` and `libusb_detach_kernel_driver`. -/
def detachKernelDriver (s : State) : State :=
  let asked := s.call (.kernelDriverActive s.dev (s.outcome outside))
  if s.outcome outside then asked.call (.detachKernelDriver s.dev) else asked

/-- `libusb_set_configuration`, whose failure is only printed. -/
def setConfiguration (s : State) : State :=
  s.call (.setConfiguration s.dev)

/-- `libusb_claim_interface`. -/
def claimInterface : Stage := fun s =>
  (if s.outcome outside then .reached else .cleanup,
    s.call (.claimInterface s.dev (s.outcome outside)))

/-! ## Endpoints -/

/-- `LIBUSB_TRANSFER_TYPE_BULK` under its mask. -/
def Endpoint.isBulk (ep : Endpoint) : Bool :=
  ep.bmAttributes &&& 0x03 == 2

/-- `LIBUSB_ENDPOINT_IN` under its mask. -/
def Endpoint.isIn (ep : Endpoint) : Bool :=
  ep.bEndpointAddress &&& 0x80 == 0x80

/-- The innermost loop body of `find_endpoints`. -/
def selectEndpoint (g : Globals) (ep : Endpoint) : Globals :=
  if ep.isBulk then
    if ep.isIn then
      if g.epIn = 0 then { g with epIn := ep.bEndpointAddress }
      else if g.epIn2 = 0 then { g with epIn2 := ep.bEndpointAddress }
      else g
    else if ep.bEndpointAddress = 0x08 then { g with epOut := ep.bEndpointAddress }
    else g
  else g

/-- The loops of `find_endpoints`, from no endpoint on. -/
def walkEndpoints (config : ConfigDescriptor) (g : Globals) : Globals :=
  config.foldl
    (fun g settings => settings.foldl (fun g endpoints => endpoints.foldl selectEndpoint g) g)
    { g with epIn := 0, epIn2 := 0, epOut := 0 }

/-- `find_endpoints`. -/
def findEndpoints : Stage := fun s =>
  let asked := s.call (.getConfigDescriptor s.dev (s.outcome outside))
  if s.outcome outside then
    let walked := walkEndpoints outside.config s.globals
    (if walked.epIn ≠ 0 ∧ walked.epOut ≠ 0 then .reached else .cleanup,
      { asked.call .freeConfigDescriptor with globals := walked })
  else (.cleanup, asked)

/-! ## Firmware -/

/-- `XONE_FW_MIN_SIZE`. -/
def xoneFwMinSize : Nat := 32 * 1024

/-- `mt76_load_firmware`; the buffer it returns, if any, is the caller's. -/
def mt76LoadFirmware (s : State) : Option (List UInt8) × State :=
  let file := s.call (.openFile (s.outcome outside))
  if !s.outcome outside then (none, file)
  else if outside.firmwareFile.length < xoneFwMinSize then (none, file.call .closeFile)
  else
    let buf := file.call (.malloc (file.outcome outside))
    if !file.outcome outside then (none, buf.call .closeFile)
    else
      let read := buf.call (.readFile (buf.outcome outside))
      if !buf.outcome outside then (none, (read.call .free).call .closeFile)
      else (some outside.firmwareFile, read.call .closeFile)

/-- The radio after the upload, and the forced channel. -/
def startRadio (usb : UsbLog) : Stage := fun s =>
  let sent := (s.call .sleep).call (.transfers s.dev)
  match radioStart (outside.world .v3 s.socket) usb s.globals.daemon with
  | none => (.cleanup, sent)
  | some daemon =>
      (.reached, { sent.call .sleep with globals := { s.globals with daemon := daemon } })

/-- The firmware upload of the adapter 0x02FE; at most `rounds` iterations of its loops. -/
def uploadFirmware (rounds : Nat) : Stage := fun s =>
  let asked := s.call (.getDeviceDescriptor s.dev)
  if s.dev.map Handle.product = some .v3 then
    let loaded := mt76LoadFirmware outside asked
    match loaded.1 with
    | none => (.cleanup, loaded.2)
    | some fw =>
        let sent := loaded.2.call (.transfers s.dev)
        match mt76UploadFwDma outside.dongle outside.env.forceReload fw rounds [] with
        | none => (.waiting, sent)
        | some (rc, usb) =>
            if rc ≠ 0 then (.cleanup, sent.call .free)
            else startRadio outside usb (sent.call .free)
  else (.reached, asked)

/-- The read that looks for data on the first endpoint. -/
def probeEndpoint (s : State) : State :=
  s.call (.transfers s.dev)

/-! ## The reader threads -/

/-- `start_reader_threads`, which looks at no outcome. -/
def startReaderThreads (s : State) : State :=
  let first := s.call (.createThread .reader1 s.globals.epIn (s.outcome outside))
  if s.globals.epIn2 ≠ 0 then
    first.call (.createThread .reader2 s.globals.epIn2 (first.outcome outside))
  else first

/-- The waiting loop of `read_loop`: in each second the threads and the pairing check make
their transfers. -/
def serve : Nat → Stage
  | 0, s => (.waiting, s)
  | rounds + 1, s =>
      if s.running outside then serve rounds ((s.call .sleep).call (.transfers s.dev))
      else (.reached, s)

/-- The end of `read_loop`. -/
def joinThreads (s : State) : State :=
  let first := s.call (.joinThread .reader1)
  if s.globals.epIn2 ≠ 0 then first.call (.joinThread .reader2) else first

/-- `cleanup`, as far as USB and the socket go. -/
def cleanup (s : State) : State :=
  let closed :=
    if s.dev.isSome then (s.call (.releaseInterface s.dev)).call (.closeDevice s.dev) else s
  let silent := if s.socket then { closed.call .closeSocket with socket := false } else closed
  silent.call .usbExit

/-! ## `main` -/

/-- `main` up to the start of the reader threads. -/
def setUp (rounds : Nat) : Stage :=
  (step (initEventUdpFromEnv outside)).andThen .reached <|
  (initUsb outside).andThen .reached <|
  (step fun s => probeHid outside (listUsbDevices outside s)).andThen .reached <|
  (waitForDongle outside rounds).andThen .reached <|
  (checkRunning outside).andThen .reached <|
  (resetDongle outside).andThen .reached <|
  (step fun s => setConfiguration (detachKernelDriver outside s)).andThen .reached <|
  (claimInterface outside).andThen .reached <|
  (findEndpoints outside).andThen .reached <|
  (uploadFirmware outside rounds).andThen .reached <|
  step probeEndpoint

/-- `read_loop` with its threads. -/
def readLoop (rounds : Nat) : Stage :=
  (step fun s => (startReaderThreads outside s).call .sleep).andThen .reached <|
  (serve outside rounds).andThen .reached <|
  step joinThreads

/-- The end of `main`: what reaches the label goes through cleanup. -/
def finish : Exit × State → Exit × State
  | (.reached, s) => (.cleanup, cleanup s)
  | (.cleanup, s) => (.cleanup, cleanup s)
  | (.failed, s) => (.failed, s)
  | (.waiting, s) => (.waiting, s)

/-- `main`; its waiting loops run at most `rounds` times. -/
def main (rounds : Nat) : Exit × State :=
  finish ((setUp outside rounds).andThen .reached (readLoop outside rounds) {})

end

end XoneDarwin.Launch
