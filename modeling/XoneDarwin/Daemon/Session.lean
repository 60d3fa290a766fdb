import XoneDarwin.Daemon.Emissions

/-!
# Who is connected, and what their pads show

The daemon seen from its controllers. A received transfer is a `Stimulus`: which
station does what. The peer table answers stimuli by itself; it decides which pad
events happen and what is sent. A pad is the part of a slot that depends on these
events alone.
-/

namespace XoneDarwin

/-! ## Pads -/

/-- What a slot shows of its controller. -/
@[ext] structure Pad where
  active : Bool := false
  guidePressed : Bool := false
  lastReport : HidReport := {}
  deriving DecidableEq

/-- What can happen to a pad. -/
inductive PadEvent
  | connect
  | disconnect
  | input (g : GipInput)
  | guide (pressed : Bool)
  deriving DecidableEq

/-- The purpose of a pad: a connect shows a centred hat, a disconnect clears everything,
input and guide events show up in the report. -/
def Pad.apply (pad : Pad) : PadEvent → Pad
  | .connect =>
      if pad.active then pad
      else { pad with active := true, lastReport := { pad.lastReport with hat := 8 } }
  | .disconnect => if pad.active then {} else pad
  | .input g =>
      if pad.active then { pad with lastReport := gipToHid g pad.guidePressed } else pad
  | .guide pressed =>
      { pad with guidePressed := pressed, lastReport := pad.lastReport.withGuide pressed }

def Slot.pad (s : Slot) : Pad := ⟨s.active, s.guidePressed, s.lastReport⟩

/-- The pads of all slots. -/
def Pads.view (pads : Pads) (s : Fin maxSlots) : Pad := (pads.slots s).pad

section

variable (host : Host) (eventUdp : Bool)

/-- The handler of a pad event. -/
def Pads.handle (pads : Pads) (call : Fin maxSlots × PadEvent) : Pads :=
  let client := UInt8.ofNat call.1
  match call.2 with
  | .connect => onConnect host eventUdp client pads
  | .disconnect => onDisconnect eventUdp client pads
  | .input g => if (pads.slots call.1).active then reportInput eventUdp client call.1 g pads else pads
  | .guide pressed => onGuide eventUdp client pressed pads

theorem slotIdx?_ofNat (s : Fin maxSlots) : slotIdx? (UInt8.ofNat s) = some s := by
  revert s
  decide

theorem view_eventUdpSend (message : List Char) (pads : Pads) :
    (eventUdpSend eventUdp message pads).view = pads.view := by
  unfold eventUdpSend
  split <;> rfl

theorem view_postHidReport (s : Fin maxSlots) (pads : Pads) :
    (postHidReport s pads).view = pads.view := by
  unfold postHidReport
  split <;> rfl

theorem view_setSlot (s : Fin maxSlots) (slot : Slot) (pads : Pads) :
    (pads.setSlot s slot).view = Function.update pads.view s slot.pad := by
  funext other
  simp only [Pads.view, Pads.setSlot, Function.update_apply]
  split <;> rfl

theorem view_createVirtualGamepad (slot : UInt8) (pads : Pads) :
    (createVirtualGamepad host slot pads).2.view = pads.view := by
  simp only [createVirtualGamepad]
  split
  · split <;> rfl
  · rfl

/-- The handlers do to the pad what `Pad.apply` says. -/
theorem view_handle (pads : Pads) (s : Fin maxSlots) (event : PadEvent) :
    (pads.handle host eventUdp (s, event)).view =
      Function.update pads.view s ((pads.view s).apply event) := by
  cases event with
  | connect =>
      by_cases hactive : (pads.slots s).active = true
      · have hpad : (pads.view s).apply .connect = pads.view s := if_pos hactive
        rw [hpad, Function.update_eq_self]
        simp only [Pads.handle, onConnect, slotIdx?_ofNat, if_pos hactive]
      · have hpad : (pads.view s).apply .connect = _ := if_neg hactive
        simp only [Pads.handle, onConnect, slotIdx?_ofNat, if_neg hactive]
        rw [view_eventUdpSend, view_setSlot, view_createVirtualGamepad, hpad]
        rfl
  | disconnect =>
      by_cases hactive : (pads.slots s).active = true
      · have hpad : (pads.view s).apply .disconnect = {} := if_pos hactive
        simp only [Pads.handle, onDisconnect, slotIdx?_ofNat, if_pos hactive]
        rw [view_eventUdpSend, view_setSlot, hpad]
        split <;> rfl
      · have hpad : (pads.view s).apply .disconnect = pads.view s := if_neg hactive
        rw [hpad, Function.update_eq_self]
        simp only [Pads.handle, onDisconnect, slotIdx?_ofNat, if_neg hactive]
  | input g =>
      by_cases hactive : (pads.slots s).active = true
      · have hpad : (pads.view s).apply (.input g) = _ := if_pos hactive
        simp only [Pads.handle, reportInput, if_pos hactive]
        rw [view_eventUdpSend, view_postHidReport, view_setSlot, hpad]
        rfl
      · have hpad : (pads.view s).apply (.input g) = pads.view s := if_neg hactive
        rw [hpad, Function.update_eq_self]
        simp only [Pads.handle, if_neg hactive]
  | guide pressed =>
      simp only [Pads.handle, onGuide, slotIdx?_ofNat]
      rw [view_eventUdpSend, view_postHidReport, view_setSlot]
      rfl

end

/-! ## GIP frames -/

/-- What a GIP frame means to the daemon. -/
inductive GipEvent
  | pad (event : PadEvent)
  | announce
  | other
  deriving DecidableEq

/-- A GIP frame as far as the daemon acts on it. -/
structure GipFrame where
  /-- the sender wants an acknowledgement -/
  ack : Bool
  event : GipEvent

/-- The event of a frame of at least four bytes. -/
def gipEvent (gip : List UInt8) (gipLen : Int) : GipEvent :=
  let h := gipHeader gip
  let plen := h.plen (gipLen - 4)
  if h.command = gipCmdCtrlAdded then .pad .connect
  else if h.command = gipCmdCtrlLost then .pad .disconnect
  else if h.command = gipCmdAnnounce then
    if h.deviceId = 0 ∧ h.frameType = gipTypeRequest then .announce else .other
  else if h.command = gipCmdStatus then .other
  else if h.command = gipCmdInput ∨ h.command = gipCmdInputOverflow then
    match parseInput (gip.drop 4) plen with
    | some g => .pad (.input g)
    | none => .other
  else if h.command = gipCmdGuideBtn then
    if plen ≥ 1 then .pad (.guide (byteAt gip 4 ≠ 0)) else .other
  else .other

/-- The reading of a GIP frame; shorter ones mean nothing. -/
def readGip (gip : List UInt8) (gipLen : Int) : GipFrame :=
  if gipLen < 4 then ⟨false, .other⟩
  else ⟨(gipHeader gip).frameType &&& gipTypeAck ≠ 0, gipEvent gip gipLen⟩

/-! ## Stimuli -/

/-- A received transfer, seen from the controllers. -/
inductive Stimulus
  /-- nothing that concerns a controller -/
  | quiet
  /-- a probe or authentication request that is answered -/
  | register (mac : Mac)
  | associate (mac : Mac) (reassoc : Bool)
  /-- a vendor action frame -/
  | action (mac : Mac)
  | data (mac : Mac) (frame : GipFrame)
  /-- the dongle lost a client -/
  | lost (slot : Fin maxSlots)

/-- The GIP frame behind the QoS control and padding bytes of a data frame. -/
def RxFrame.gip (frame : RxFrame) : GipFrame :=
  readGip (frame.pl.drop 4) (frame.payloadLen - 4)

def RxFrame.stimulus (frame : RxFrame) (ourMac : Mac) : Stimulus :=
  if frame.QosData ourMac then .data frame.src frame.gip
  else if frame.IsXboxAction ∧ frame.ToUs ourMac then .action frame.src
  else if frame.Mgmt 4 ourMac then
    if frame.payloadLen ≥ 2 ∧ byteAt frame.pl 0 = 0x00 ∧ byteAt frame.pl 1 = 0x00 then
      .register frame.src
    else .quiet
  else if frame.Mgmt 11 ourMac then .register frame.src
  else if frame.Mgmt 0 ourMac then .associate frame.src false
  else if frame.Mgmt 2 ourMac then .associate frame.src true
  else .quiet

def Transfer.stimulus (env : Env) (ourMac : Mac) (t : Transfer) : Stimulus :=
  if t.bytes.length < 8 then .quiet
  else
    match rxFrame? t with
    | some frame => frame.stimulus ourMac
    | none =>
        match clientLost? env t with
        | some lostWcid =>
            if lostWcid > 0 ∧ lostWcid < 9 then
              match slotIdx? (lostWcid - 1) with
              | some s => .lost s
              | none => .quiet
            else .quiet
        | none => .quiet

theorem rxFrame?_long {t : Transfer} {frame : RxFrame} (hframe : rxFrame? t = some frame) :
    ¬t.bytes.length < 8 := by
  rw [rxFrame?] at hframe
  split at hframe
  next hwlan => omega
  next => cases hframe

theorem Transfer.stimulus_frame {t : Transfer} {frame : RxFrame} (hframe : rxFrame? t = some frame)
    (env : Env) (ourMac : Mac) : t.stimulus env ourMac = frame.stimulus ourMac := by
  simp only [Transfer.stimulus, if_neg (rxFrame?_long hframe), hframe]

theorem handleTransfer_frame (world : World) (now : UInt64) {t : Transfer} {frame : RxFrame}
    (hframe : rxFrame? t = some frame) (daemon : Daemon) :
    handleTransfer world now t daemon = handleFrame world now frame daemon := by
  simp only [handleTransfer, if_neg (rxFrame?_long hframe), hframe]

theorem RxFrame.stimulus_data {frame : RxFrame} {ourMac : Mac} (hdata : frame.QosData ourMac) :
    frame.stimulus ourMac = .data frame.src frame.gip :=
  if_pos hdata

/-- The transfer in which a GIP packet of `src` arrives. -/
def gipTransfer (ap src : Mac) (gip : List UInt8) (hfits : gip.length ≤ 4028) : Transfer :=
  wlanTransfer 0x88 ap src ([0, 0, 0, 0] ++ gip) (by
    rw [List.length_append]
    exact Nat.add_le_add_left hfits 4)

/-- A GIP packet arrives as data of its sender. -/
theorem gipTransfer_data (ap src : Mac) (gip : List UInt8) (hfits : gip.length ≤ 4028)
    (hgip : gip ≠ []) :
    ∃ frame, rxFrame? (gipTransfer ap src gip hfits) = some frame ∧ frame.QosData ap ∧
      frame.src = src ∧ frame.gip = readGip (gip ++ List.replicate 4 0) gip.length := by
  have hpos := List.length_pos_iff.mpr hgip
  have hlen : (([0, 0, 0, 0] ++ gip).length : Int) - 4 = gip.length := by
    rw [List.length_append]
    simp
  have htype : ((load16 [0x88, 0] >>> 2) &&& 3).toUInt8 = 2 := by decide
  have hsubtype : ((load16 [0x88, 0] >>> 4) &&& 0xf).toUInt8 = 8 := by decide
  refine ⟨_, rxFrame?_wlanTransfer _ _ _ _ _, ⟨htype, hsubtype, Or.inl rfl, ?_⟩, rfl, ?_⟩
  · dsimp only
    omega
  · simp only [RxFrame.gip, hlen]
    rfl

/-- A controller's address. -/
def padMac : Mac := ⟨0x7e, 0xed, 0x8d, 0x01, 0x02, 0x03⟩

/-- The step in which a packet of that controller arrives at `plainMac`. -/
def packetStep (gip : List UInt8) (hfits : gip.length ≤ 4028) : Step :=
  .transfer 0 (gipTransfer plainMac padMac gip hfits)

/-- It is added, and it is removed. -/
def addedStep : Step := packetStep [0x0e, 0x00, 0x01, 0x00] (by decide)

def removedStep : Step := packetStep [0x0f, 0x00, 0x02, 0x00] (by decide)

/-! ## The peer table as a machine -/

/-- The pad of a peer entry: entries 1 to 8 own pads 0 to 7. -/
def padOf? (i : Fin maxPeers) : Option (Fin maxSlots) :=
  if h : 0 < i.val ∧ i.val ≤ 8 then
    some ⟨i.val - 1, Nat.lt_of_lt_of_le (Nat.sub_lt h.1 Nat.one_pos) h.2⟩
  else none

namespace PeerTable

/-- The table once `mac` is registered. -/
def register (mac : Mac) (table : PeerTable) : PeerTable := (table.remember mac).2

/-- The entry of `mac` once it is registered. -/
def entry (mac : Mac) (table : PeerTable) : Fin maxPeers := (table.remember mac).1.getD 0

/-- A peer gets its pad. -/
def attach (i : Fin maxPeers) (table : PeerTable) : PeerTable :=
  match padOf? i with
  | none => table
  | some s =>
      table.setPeer i { table.peers i with slot := UInt8.ofNat s, handshakeDone := true }

/-- The firmware knows the client. -/
def addClient (i : Fin maxPeers) (table : PeerTable) : PeerTable :=
  table.setPeer i { table.peers i with fwClientAdded := true }

/-- A peer has announced itself. -/
def greet (i : Fin maxPeers) (table : PeerTable) : PeerTable :=
  table.setPeer i { table.peers i with initialCommandsSent := true, sessionInitialized := true }

def step (table : PeerTable) : Stimulus → PeerTable
  | .quiet => table
  | .register mac => table.register mac
  | .associate mac _ =>
      if sessionInitializedFor mac table then table
      else (table.register mac).addClient (table.entry mac)
  | .action mac => (table.register mac).attach (table.entry mac)
  | .data mac frame =>
      let attached := (table.register mac).attach (table.entry mac)
      if frame.event = .announce ∧ (padOf? (table.entry mac)).isSome then
        attached.greet (table.entry mac)
      else attached
  | .lost _ => table

/-- The pad event of a first contact. -/
def attachEvents (table : PeerTable) (mac : Mac) : List (Fin maxSlots × PadEvent) :=
  match padOf? (table.entry mac) with
  | none => []
  | some s =>
      if ((table.register mac).peers (table.entry mac)).handshakeDone then [] else [(s, .connect)]

/-- The pad event of a GIP frame. -/
def gipEvents (table : PeerTable) (mac : Mac) (frame : GipFrame) :
    List (Fin maxSlots × PadEvent) :=
  match padOf? (table.entry mac), frame.event with
  | some s, .pad event => [(s, event)]
  | _, _ => []

/-- The pad events of a stimulus, in order. -/
def padEvents (table : PeerTable) : Stimulus → List (Fin maxSlots × PadEvent)
  | .action mac => table.attachEvents mac
  | .data mac frame => table.attachEvents mac ++ table.gipEvents mac frame
  | .lost s => [(s, .disconnect)]
  | _ => []

/-- The start-up commands an announce brings about, newest first. -/
def greetings (table : PeerTable) (mac : Mac) (frame : GipFrame) : List Sent :=
  if frame.event = .announce ∧
      ((table.register mac).peers (table.entry mac)).initialCommandsSent = false then
    [.gip mac gipCmdSerial, .gip mac gipCmdLed, .gip mac gipCmdPower]
  else []

/-- What is sent in answer to a stimulus, newest first. -/
def sends (table : PeerTable) : Stimulus → List Sent
  | .associate mac reassoc =>
      if sessionInitializedFor mac table then [] else [.assocResponse mac reassoc]
  | .data mac frame =>
      match padOf? (table.entry mac) with
      | none => []
      | some _ =>
          table.greetings mac frame ++ if frame.ack then [.gip mac gipCmdAcknowledge] else []
  | _ => []

end PeerTable

/-! ## Table and pads together -/

/-- What the controllers see of the daemon. -/
@[ext] structure Link where
  table : PeerTable := {}
  pads : Fin maxSlots → Pad := fun _ => {}

/-- Pad events in order. -/
def applyEvents (events : List (Fin maxSlots × PadEvent)) (pads : Fin maxSlots → Pad) :
    Fin maxSlots → Pad :=
  events.foldl (fun pads call => Function.update pads call.1 ((pads call.1).apply call.2)) pads

def Link.step (link : Link) (stimulus : Stimulus) : Link where
  table := link.table.step stimulus
  pads := applyEvents (link.table.padEvents stimulus) link.pads

def Daemon.link (daemon : Daemon) : Link :=
  ⟨daemon.table, daemon.pads.view⟩

theorem view_foldl_handle (host : Host) (eventUdp : Bool)
    (events : List (Fin maxSlots × PadEvent)) (pads : Pads) :
    (events.foldl (Pads.handle host eventUdp) pads).view = applyEvents events pads.view := by
  induction events generalizing pads with
  | nil => rfl
  | cons call rest ih =>
      rw [List.foldl_cons, ih, view_handle]
      rfl

end XoneDarwin
