import XoneDarwin.Injector.Lines

/-!
# The SDL injector

`ryujinx_sdl_inject.c`: a library inside the emulator that turns the daemon's events
into virtual joysticks of SDL. SDL is the list of its joysticks; which of its
functions are found, and which calls succeed, is up to the emulator.
-/

namespace XoneDarwin

/-! ## SDL -/

/-- The values of `api_version`. -/
inductive SdlApi
  | sdl2
  | sdl3
  deriving DecidableEq

/-- What the emulator offers at one event. -/
structure SdlHost where
  /-- the six functions of SDL2's virtual joysticks are found -/
  sdl2 : Bool
  /-- the six functions of SDL3's virtual joysticks are found -/
  sdl3 : Bool
  /-- `SDL_JoystickClose` is found -/
  joystickClose : Bool
  /-- `SDL_UpdateJoysticks` is found -/
  updateJoysticks : Bool
  /-- attaching a joystick succeeds -/
  attach : Bool
  /-- opening a joystick succeeds -/
  opens : Bool

/-- SDL3, and perhaps SDL2, with everything succeeding. -/
def SdlHost.working (sdl2 : Bool) : SdlHost := ⟨sdl2, true, true, true, true, true⟩

/-- SDL's virtual joysticks, behind `others` joysticks in the device list. A joystick goes by its
instance id, which is never used again; SDL2 hands out the position in the list instead. -/
structure Joysticks where
  others : Nat
  virtuals : List Nat := []
  nextInstance : Nat

namespace Joysticks

variable (api : SdlApi) (id : Int) (sdl : Joysticks)

/-- The joystick that `id` refers to. -/
def joystick? : Option Nat :=
  match api with
  | .sdl2 => if (sdl.others : Int) ≤ id then sdl.virtuals[(id - sdl.others).toNat]? else none
  | .sdl3 => sdl.virtuals.find? fun joy => (joy : Int) = id

/-- `SDL_JoystickAttachVirtual` and `SDL_AttachVirtualJoystick`. -/
def attachVirtual : Int × Joysticks :=
  let attached := { sdl with
    virtuals := sdl.virtuals ++ [sdl.nextInstance], nextInstance := sdl.nextInstance + 1 }
  match api with
  | .sdl2 => ((sdl.others + sdl.virtuals.length : Nat), attached)
  | .sdl3 => (sdl.nextInstance, attached)

/-- `SDL_JoystickDetachVirtual` and `SDL_DetachVirtualJoystick`. -/
def detachVirtual : Joysticks :=
  match sdl.joystick? api id with
  | some joy => { sdl with virtuals := sdl.virtuals.erase joy }
  | none => sdl

end Joysticks

/-- Calls that change what a joystick shows. -/
inductive SdlCall
  | close (joy : Nat)
  | axis (joy axis : Nat) (value : Int)
  | button (joy button : Nat) (down : Bool)
  | hat (joy hat : Nat) (value : UInt8)
  | update
  deriving DecidableEq

abbrev sdlHatCentered : UInt8 := 0x00
abbrev sdlHatUp : UInt8 := 0x01
abbrev sdlHatRight : UInt8 := 0x02
abbrev sdlHatDown : UInt8 := 0x04
abbrev sdlHatLeft : UInt8 := 0x08

/-! ## State -/

/-- `slot_state_t`; `instanceId` is -1 wherever the rest is zero. -/
structure InjectorSlot where
  active : Bool := false
  instanceId : Int := -1
  joy : Option Nat := none
  calibrated : Bool := false
  baseLt : Int := 0
  baseRt : Int := 0
  baseLx : Int := 0
  baseLy : Int := 0
  baseRx : Int := 0
  baseRy : Int := 0
  buttons : Int := 0
  lt : Int := 0
  rt : Int := 0
  lx : Int := 0
  ly : Int := 0
  rx : Int := 0
  ry : Int := 0

/-- What the environment variables set. -/
structure InjectorSettings where
  stickGain : Int := 1
  stickDeadzone : Int := 500
  swapLr : Bool := false
  swapSticks : Bool := false
  xoneAxisLayout : Bool := false

/-- `g_slots` and `g_sdl`, SDL itself and the calls to its joysticks, newest first. `api` is
`api_version` once `ready` is set. -/
structure Injector where
  settings : InjectorSettings
  api : Option SdlApi := none
  joystickClose : Bool := false
  updateJoysticks : Bool := false
  slots : Fin maxSlots → InjectorSlot := fun _ => {}
  sdl : Joysticks
  calls : List SdlCall := []

/-- The numbers `on_input` reads from a line; absent ones are 0. -/
structure InputNumbers where
  buttons : Int
  lt : Int
  rt : Int
  lx : Int
  ly : Int
  rx : Int
  ry : Int

namespace Injector

/-! ## Conversions -/

/-- `buttons & mask`. -/
def isPressed (buttons : Int) (mask : UInt16) : Bool :=
  UInt16.ofInt buttons &&& mask ≠ 0

/-- `dpad_to_hat`. -/
def dpadToHat (buttons : Int) : UInt8 :=
  match isPressed buttons btnDpadUp, isPressed buttons btnDpadDown, isPressed buttons btnDpadLeft,
    isPressed buttons btnDpadRight with
  | true, false, false, false => sdlHatUp
  | true, false, false, true => sdlHatRight ||| sdlHatUp
  | false, false, false, true => sdlHatRight
  | false, true, false, true => sdlHatRight ||| sdlHatDown
  | false, true, false, false => sdlHatDown
  | false, true, true, false => sdlHatLeft ||| sdlHatDown
  | false, false, true, false => sdlHatLeft
  | true, false, true, false => sdlHatLeft ||| sdlHatUp
  | _, _, _, _ => sdlHatCentered

/-- `trigger_to_sdl_axis`. -/
def triggerToSdlAxis (v : Int) : Int :=
  let low := if v < 0 then 0 else v
  let clamped := if low > 4095 then 4095 else low
  (clamped * 32767) / 4095

/-- `scale_stick_axis`. -/
def scaleStickAxis (settings : InjectorSettings) (v : Int) : Int :=
  if v > -settings.stickDeadzone ∧ v < settings.stickDeadzone then 0
  else
    let x := v * settings.stickGain
    let low := if x > 32767 then 32767 else x
    if low < -32768 then -32768 else low

/-- `c_lt` and `c_rt` of `on_input`. -/
def triggerOffset (v base : Int) : Int :=
  let c := if v - base < 0 then -(v - base) else v - base
  if c > 4095 then 4095 else c

/-! ## Joysticks -/

section

variable (host : SdlHost)

/-- `ensure_sdl_ready`: the pointers are looked up at every attempt until the API is complete. -/
def ensureSdlReady (injector : Injector) : Bool × Injector :=
  match injector.api with
  | some _ => (true, injector)
  | none =>
      let looked := { injector with
        joystickClose := host.joystickClose, updateJoysticks := host.updateJoysticks }
      if host.sdl2 then (true, { looked with api := some .sdl2 })
      else if host.sdl3 then (true, { looked with api := some .sdl3 })
      else (false, looked)

/-- `sdl_attach_virtual`: SDL2 reports a failure by -1, SDL3 by 0. -/
def sdlAttachVirtual (injector : Injector) : Int × Injector :=
  match injector.api with
  | none => (-1, injector)
  | some api =>
      if host.attach then
        let attached := injector.sdl.attachVirtual api
        (attached.1, { injector with sdl := attached.2 })
      else
        match api with
        | .sdl2 => (-1, injector)
        | .sdl3 => (0, injector)

/-- `attach_ok`. -/
def attachOk (api : Option SdlApi) (jid : Int) : Bool :=
  if api = some .sdl3 then jid > 0 else jid ≥ 0

/-- `sdl_detach_virtual`. -/
def sdlDetachVirtual (instanceId : Int) (injector : Injector) : Injector :=
  match injector.api with
  | none => injector
  | some api => { injector with sdl := injector.sdl.detachVirtual api instanceId }

/-- `sdl_open_joystick`. -/
def sdlOpenJoystick (instanceId : Int) (injector : Injector) : Option Nat :=
  if host.opens then injector.api.bind fun api => injector.sdl.joystick? api instanceId else none

def setSlot (i : Fin maxSlots) (slot : InjectorSlot) (injector : Injector) : Injector :=
  { injector with slots := Function.update injector.slots i slot }

/-! ## Output -/

/-- The axes of `apply_slot_state_locked`, in the order they are set. -/
def slotAxes (settings : InjectorSettings) (s : InjectorSlot) : List (Nat × Int) :=
  let lx := if settings.swapSticks then s.rx else s.lx
  let ly := if settings.swapSticks then s.ry else s.ly
  let rx := if settings.swapSticks then s.lx else s.rx
  let ry := if settings.swapSticks then s.ly else s.ry
  let axLx := scaleStickAxis settings lx
  let axLy := scaleStickAxis settings (-ly)
  let axRx := scaleStickAxis settings rx
  let axRy := scaleStickAxis settings (-ry)
  let first := triggerToSdlAxis (if settings.swapLr then s.rt else s.lt)
  let second := triggerToSdlAxis (if settings.swapLr then s.lt else s.rt)
  if settings.xoneAxisLayout then
    [(0, axLx), (1, axLy), (2, first), (3, axRx), (4, axRy), (5, second)]
  else [(0, axLx), (1, axLy), (2, axRx), (3, axRy), (4, first), (5, second)]

/-- The buttons of `apply_slot_state_locked`. -/
def slotButtons (settings : InjectorSettings) (s : InjectorSlot) : List (Nat × Bool) :=
  [(0, isPressed s.buttons btnA), (1, isPressed s.buttons btnB), (2, isPressed s.buttons btnX),
    (3, isPressed s.buttons btnY), (4, isPressed s.buttons btnView),
    (5, isPressed s.buttons btnSync), (6, isPressed s.buttons btnMenu),
    (7, isPressed s.buttons btnLs), (8, isPressed s.buttons btnRs),
    (9, isPressed s.buttons (if settings.swapLr then btnRb else btnLb)),
    (10, isPressed s.buttons (if settings.swapLr then btnLb else btnRb)),
    (11, isPressed s.buttons btnDpadUp), (12, isPressed s.buttons btnDpadDown),
    (13, isPressed s.buttons btnDpadLeft), (14, isPressed s.buttons btnDpadRight),
    (15, false), (16, false)]

/-- The calls of `apply_slot_state_locked`, in their order. -/
def slotCalls (injector : Injector) (joy : Nat) (s : InjectorSlot) : List SdlCall :=
  (slotAxes injector.settings s).map (fun value => .axis joy value.1 value.2) ++
    ((slotButtons injector.settings s).map (fun value => .button joy value.1 value.2) ++
      (.hat joy 0 (dpadToHat s.buttons) :: if injector.updateJoysticks then [.update] else []))

/-- `apply_slot_state_locked`. -/
def applySlotState (i : Fin maxSlots) (injector : Injector) : Injector :=
  let s := injector.slots i
  match s.joy with
  | none => injector
  | some joy =>
      if s.active ∧ ¬s.instanceId < 0 then
        { injector with calls := (injector.slotCalls joy s).reverse ++ injector.calls }
      else injector

/-! ## Handlers -/

/-- `on_connected` behind its checks. -/
def attachSlot (i : Fin maxSlots) (injector : Injector) : Injector :=
  if (injector.slots i).active then injector
  else
    let attached := injector.sdlAttachVirtual host
    if attachOk attached.2.api attached.1 then
      match attached.2.sdlOpenJoystick host attached.1 with
      | none => attached.2.sdlDetachVirtual attached.1
      | some joy =>
          applySlotState i (attached.2.setSlot i
            { active := true, instanceId := attached.1, joy := some joy })
    else attached.2

/-- `on_connected`. -/
def onConnected (slot : Int) (injector : Injector) : Injector :=
  match bridgeSlot? slot with
  | none => injector
  | some i =>
      let ensured := injector.ensureSdlReady host
      if ensured.1 then ensured.2.attachSlot host i else ensured.2

/-- `on_disconnected`. -/
def onDisconnected (slot : Int) (injector : Injector) : Injector :=
  match bridgeSlot? slot with
  | none => injector
  | some i =>
      let s := injector.slots i
      if s.active then
        let closed :=
          match s.joy with
          | some joy =>
              if injector.joystickClose then
                { injector with calls := .close joy :: injector.calls }
              else injector
          | none => injector
        (closed.sdlDetachVirtual s.instanceId).setSlot i {}
      else injector

/-- What `on_input` makes of the numbers of a slot in use. -/
def withNumbers (s : InjectorSlot) (numbers : InputNumbers) : InjectorSlot :=
  let c := if s.calibrated then s else
    { s with
      baseLt := numbers.lt
      baseRt := numbers.rt
      baseLx := numbers.lx
      baseLy := numbers.ly
      baseRx := numbers.rx
      baseRy := numbers.ry
      calibrated := true }
  -- signed overflow is undefined in C; the differences are exact here
  { c with
    buttons := numbers.buttons
    lt := triggerOffset numbers.lt c.baseLt
    rt := triggerOffset numbers.rt c.baseRt
    lx := numbers.lx - c.baseLx
    ly := numbers.ly - c.baseLy
    rx := numbers.rx - c.baseRx
    ry := numbers.ry - c.baseRy }

/-- `on_input` under the lock. -/
def applyInput (i : Fin maxSlots) (numbers : InputNumbers) (injector : Injector) : Injector :=
  if (injector.slots i).active then
    applySlotState i (injector.setSlot i (withNumbers (injector.slots i) numbers))
  else injector

/-- The numbers of an input line whose buttons are known. -/
def inputNumbers (buttons : Int) (line : List Char) : InputNumbers where
  buttons := buttons
  lt := (jsonGetInt line "lt").getD 0
  rt := (jsonGetInt line "rt").getD 0
  lx := (jsonGetInt line "lx").getD 0
  ly := (jsonGetInt line "ly").getD 0
  rx := (jsonGetInt line "rx").getD 0
  ry := (jsonGetInt line "ry").getD 0

/-- `on_input`. -/
def onInput (line : List Char) (injector : Injector) : Injector :=
  match (jsonGetInt line "slot").bind bridgeSlot?, jsonGetInt line "buttons" with
  | some i, some buttons =>
      let ensured := injector.ensureSdlReady host
      if ensured.1 then
        -- the connected event may have been missed
        let connected :=
          if (ensured.2.slots i).active then ensured.2
          else ensured.2.onConnected host i.val
        connected.applyInput i (inputNumbers buttons line)
      else ensured.2
  | _, _ => injector

/-- `handle_line`. -/
def handleLine (injector : Injector) (line : List Char) : Injector :=
  if jsonHasType line "connected" then
    match jsonGetInt line "slot" with
    | some slot => injector.onConnected host slot
    | none => injector
  else if jsonHasType line "disconnected" then
    match jsonGetInt line "slot" with
    | some slot => injector.onDisconnected slot
    | none => injector
  else if jsonHasType line "input" then injector.onInput host line
  else injector

end

/-- One line of a datagram, and what the emulator offers while it is handled. -/
structure Event where
  host : SdlHost
  line : List Char

/-- A line is handled. -/
def step (injector : Injector) (event : Event) : Injector :=
  injector.handleLine event.host event.line

/-- One round of the loop of `udp_thread`. -/
def receive (host : SdlHost) (injector : Injector) (datagram : List Char) : Injector :=
  (lines datagram).foldl (handleLine host) injector

/-- The injector when it is loaded, with a device list that holds other joysticks. -/
def start (settings : InjectorSettings) (others : Nat) : Injector where
  settings := settings
  sdl := { others := others, nextInstance := others + 1 }

end Injector

end XoneDarwin
