import XoneDarwin.Bridge.Wire
import XoneDarwin.Daemon.Isolation

/-!
# What the bridge mirrors

The pads of daemon and bridge are two machines on the same events. They agree except
after one event: the daemon handles a guide button for a slot that is not in use and
keeps it through the next connect, which the bridge starts from scratch.
-/

namespace XoneDarwin

open Machine (run Always)

/-! ## Two machines on pad events -/

namespace Pad

/-- The bridge's side of a pad event. -/
def mirror (pad : Pad) : PadEvent → Pad
  | .connect => if pad.active then pad else { active := true, lastReport := { hat := 8 } }
  | .disconnect => if pad.active then {} else pad
  | .input g =>
      if pad.active then { pad with lastReport := gipToHid g pad.guidePressed } else pad
  | .guide pressed =>
      if pad.active then
        { pad with guidePressed := pressed, lastReport := pad.lastReport.withGuide pressed }
      else pad

/-- Same activity, and the same content where active. -/
def Agrees (daemon bridge : Pad) : Prop :=
  bridge.active = daemon.active ∧ (daemon.active = true →
    bridge.guidePressed = daemon.guidePressed ∧ bridge.lastReport = daemon.lastReport)

/-- A pad that is not in use shows the guide button and nothing else. -/
def Idle (pad : Pad) : Prop :=
  pad.active = false → pad.lastReport = ({} : HidReport).withGuide pad.guidePressed

/-- The daemon tells the bridge about this event. -/
def tells (pad : Pad) : PadEvent → Bool
  | .connect => !pad.active
  | .disconnect => pad.active
  | .input _ => pad.active
  | .guide _ => true

/-- The event is no connect of a pad that shows the guide button pressed. -/
def Starts (pad : Pad) (event : PadEvent) : Prop :=
  event = .connect → pad.active = false → pad.guidePressed = false

theorem withGuide_withGuide (guide pressed : Bool) :
    (({} : HidReport).withGuide guide).withGuide pressed = ({} : HidReport).withGuide pressed := by
  revert guide pressed
  decide

theorem Idle.apply {pad : Pad} (hidle : pad.Idle) (event : PadEvent) : (pad.apply event).Idle := by
  intro hinactive
  cases event with
  | connect =>
      rw [apply_active] at hinactive
      cases hinactive
  | disconnect =>
      simp only [Pad.apply] at hinactive ⊢
      split
      next => decide
      next hactive => exact hidle (Bool.eq_false_of_not_eq_true hactive)
  | input g =>
      have hpad : pad.active = false := (apply_active pad (.input g)).symm.trans hinactive
      rw [Pad.apply, hpad, if_neg Bool.false_ne_true]
      exact hidle hpad
  | guide pressed =>
      have hpad : pad.active = false := (apply_active pad (.guide pressed)).symm.trans hinactive
      change pad.lastReport.withGuide pressed = _
      rw [hidle hpad, withGuide_withGuide]
      rfl

/-- Agreeing pads agree after an event exactly if the daemon's pad starts afresh. -/
theorem agrees_step_iff {daemon bridge : Pad} (hagrees : daemon.Agrees bridge)
    (hidle : daemon.Idle) (event : PadEvent) :
    (daemon.apply event).Agrees (bridge.mirror event) ↔ daemon.Starts event := by
  obtain ⟨hsame, hcontent⟩ := hagrees
  cases hactive : daemon.active with
  | true =>
      obtain ⟨hguide, hreport⟩ := hcontent hactive
      have hbridge : bridge = daemon := Pad.ext hsame hguide hreport
      have hstarts : daemon.Starts event := fun _ hinactive => by
        rw [hactive] at hinactive
        cases hinactive
      refine iff_of_true ?_ hstarts
      have hstep : bridge.mirror event = daemon.apply event := by
        rw [hbridge]
        cases event <;> simp [mirror, Pad.apply, hactive]
      rw [hstep]
      exact ⟨rfl, fun _ => ⟨rfl, rfl⟩⟩
  | false =>
      rw [hactive] at hsame
      cases event with
      | connect =>
          have hstart := hidle hactive
          simp only [Pad.apply, mirror, hactive, hsame, Agrees, Starts]
          cases hguide : daemon.guidePressed with
          | true => simp
          | false =>
              rw [hguide] at hstart
              simp [hstart]
              decide
      | disconnect => simp [Pad.apply, mirror, hactive, hsame, Agrees, Starts]
      | input g => simp [Pad.apply, mirror, hactive, hsame, Agrees, Starts]
      | guide pressed => simp [Pad.apply, mirror, hactive, hsame, Agrees, Starts]

end Pad

/-! ## The bridge -/

def BridgeSlot.pad (s : BridgeSlot) : Pad := ⟨s.active, s.guidePressed, s.lastReport⟩

def Bridge.view (bridge : Bridge) (s : Fin maxSlots) : Pad := (bridge.slots s).pad

/-- The text of a pad event. -/
def PadEvent.text (s : Fin maxSlots) : PadEvent → List Char
  | .connect => connectedEvent (UInt8.ofNat s)
  | .disconnect => disconnectedEvent (UInt8.ofNat s)
  | .input g => inputEvent (UInt8.ofNat s) g
  | .guide pressed => guideEvent (UInt8.ofNat s) pressed

theorem PadEvent.text_sendable (s : Fin maxSlots) (event : PadEvent) : Sendable (event.text s) := by
  cases event with
  | connect => exact connectedEvent_sendable s
  | disconnect => exact disconnectedEvent_sendable s
  | input g => exact inputEvent_sendable s g
  | guide pressed => exact guideEvent_sendable s pressed

namespace Bridge

section

variable {host : Host} (bridge : Bridge)

theorem view_setSlot (s : Fin maxSlots) (slot : BridgeSlot) :
    (bridge.setSlot s slot).view = Function.update bridge.view s slot.pad := by
  funext other
  simp only [Bridge.view, setSlot, Function.update_apply]
  split <;> rfl

theorem view_postHidReport (s : Fin maxSlots) : (bridge.postHidReport s).view = bridge.view := by
  unfold postHidReport
  split <;> rfl

theorem createVirtualGamepad_slots (host : Host) (slot : UInt8) :
    (bridge.createVirtualGamepad host slot).2.slots = bridge.slots := by
  simp only [createVirtualGamepad]
  split <;> rfl

theorem view_createVirtualGamepad (host : Host) (slot : UInt8) :
    (bridge.createVirtualGamepad host slot).2.view = bridge.view := by
  funext s
  rw [view, createVirtualGamepad_slots, view]

/-- With a host that creates every device. -/
theorem createVirtualGamepad_ok
    (hcreate : ∀ hid slot descriptor, host.create hid slot descriptor = true)
    (slot : UInt8) : (bridge.createVirtualGamepad host slot).1 = true := by
  simp only [createVirtualGamepad, makeHidDevice, hcreate, if_true]

/-- It starts without a device in use. -/
theorem start_slots {bridge : Bridge} (hstart : start host = some bridge) :
    bridge.slots = fun _ => {} := by
  simp only [start] at hstart
  split at hstart
  · cases hstart
    exact createVirtualGamepad_slots {} host 0
  · cases hstart

theorem view_handleDisconnected {slot : Int} {i : Fin maxSlots} (hi : bridgeSlot? slot = some i) :
    (bridge.handleDisconnected slot).view =
      Function.update bridge.view i ((bridge.view i).mirror .disconnect) := by
  simp only [handleDisconnected, hi]
  by_cases hactive : (bridge.slots i).active = true
  · have hpad : (bridge.view i).mirror .disconnect = {} := if_pos hactive
    rw [if_pos hactive, view_setSlot, hpad]
    split <;> rfl
  · have hpad : (bridge.view i).mirror .disconnect = bridge.view i := if_neg hactive
    rw [if_neg hactive, hpad, Function.update_eq_self]

theorem view_handleGuide {slot : Int} {i : Fin maxSlots} (hi : bridgeSlot? slot = some i)
    (pressed : Bool) : (bridge.handleGuide slot pressed).view =
      Function.update bridge.view i ((bridge.view i).mirror (.guide pressed)) := by
  simp only [handleGuide, hi]
  by_cases hactive : (bridge.slots i).active = true
  · have hpad : (bridge.view i).mirror (.guide pressed) = _ := if_pos hactive
    rw [if_pos hactive, view_postHidReport, view_setSlot, hpad]
    rfl
  · have hpad : (bridge.view i).mirror (.guide pressed) = bridge.view i := if_neg hactive
    rw [if_neg hactive, hpad, Function.update_eq_self]

theorem view_handleInput {json : List Char} {i : Fin maxSlots}
    (hi : (jsonGetInt json "slot").bind bridgeSlot? = some i) : (bridge.handleInput json).view =
      Function.update bridge.view i ((bridge.view i).mirror (.input (parsedInput json))) := by
  simp only [handleInput, hi]
  by_cases hactive : (bridge.slots i).active = true
  · have hpad : (bridge.view i).mirror (.input (parsedInput json)) = _ := if_pos hactive
    rw [if_pos hactive, view_postHidReport, view_setSlot, hpad]
    rfl
  · have hpad : (bridge.view i).mirror (.input (parsedInput json)) = bridge.view i :=
      if_neg hactive
    rw [if_neg hactive, hpad, Function.update_eq_self]

/-- The bridge does to the pad what `Pad.mirror` says. -/
theorem view_receive (hcreate : ∀ hid slot descriptor, host.create hid slot descriptor = true)
    (s : Fin maxSlots) (event : PadEvent) :
    (bridge.receive host ((event.text s).take 318 ++ ['\n'])).view =
      Function.update bridge.view s ((bridge.view s).mirror event) := by
  rw [receive_line host bridge (event.text_sendable s)]
  cases event with
  | connect =>
      obtain ⟨htype, hslot⟩ := connectedEvent_read s
      simp only [PadEvent.text, handleEventLine, htype, if_true, hslot, handleConnected,
        bridgeSlot?_val]
      -- a second connect for a slot in use is ignored
      by_cases hactive : (bridge.slots s).active = true
      · have hpad : (bridge.view s).mirror .connect = bridge.view s := if_pos hactive
        rw [if_pos hactive, hpad, Function.update_eq_self]
      · have hpad : (bridge.view s).mirror .connect = _ := if_neg hactive
        have hok := bridge.createVirtualGamepad_ok hcreate (UInt8.ofNat s)
        rw [if_neg hactive, hok, if_pos rfl, view_postHidReport, view_setSlot,
          view_createVirtualGamepad, hpad]
        rfl
  | disconnect =>
      obtain ⟨hother, htype, hslot⟩ := disconnectedEvent_read s
      simp only [PadEvent.text, handleEventLine, hother, Bool.false_eq_true, if_false, htype,
        if_true, hslot]
      exact bridge.view_handleDisconnected (bridgeSlot?_val s)
  | input g =>
      obtain ⟨htype, hothers⟩ := inputEvent_types s g
      have hslot : jsonGetInt (inputEvent (UInt8.ofNat s) g) "slot" = some (s.val : Int) :=
        inputEvent_getInt s g (by decide)
      have hinput := bridge.view_handleInput ((congrArg (Option.bind · bridgeSlot?) hslot).trans
        (bridgeSlot?_val s))
      rw [parsedInput_inputEvent] at hinput
      simp only [PadEvent.text, handleEventLine, hothers "connected" (by decide),
        hothers "disconnected" (by decide), hothers "guide" (by decide), Bool.false_eq_true,
        if_false, htype, if_true]
      exact hinput
  | guide pressed =>
      obtain ⟨hconnected, hdisconnected, htype, hslot, hpressed⟩ := guideEvent_read s pressed
      simp only [PadEvent.text, handleEventLine, hconnected, hdisconnected, Bool.false_eq_true,
        if_false, htype, if_true, hslot, hpressed]
      exact bridge.view_handleGuide (bridgeSlot?_val s) pressed

/-- What it does not understand it ignores. -/
theorem receive_hidUnavailable :
    bridge.receive host (hidUnavailableEvent.take 318 ++ ['\n']) = bridge := by
  rw [receive_line host bridge hidUnavailableEvent_sendable]
  simp only [handleEventLine, hidUnavailableEvent_read "connected" (by decide),
    hidUnavailableEvent_read "disconnected" (by decide),
    hidUnavailableEvent_read "guide" (by decide), hidUnavailableEvent_read "input" (by decide),
    Bool.false_eq_true, if_false]

end

end Bridge

/-! ## The event stream -/

/-- The bridge when it has received some datagrams, which are listed newest first. -/
def bridgeAfter (host : Host) (bridge : Bridge) (datagrams : List Datagram) : Bridge :=
  run (Bridge.receive host) bridge (datagrams.map Datagram.text).reverse

/-- After every event the bridge agrees with the slots the daemon had when it sent it. -/
def MirrorsThroughout (host : Host) (bridge : Bridge) (datagrams : List Datagram) : Prop :=
  ∀ newer d older, datagrams = newer ++ d :: older →
    ∀ s, (d.slots s).pad.Agrees ((bridgeAfter host bridge (d :: older)).view s)

section

variable {host : Host} {bridge : Bridge}

theorem bridgeAfter_cons (d : Datagram) (older : List Datagram) :
    bridgeAfter host bridge (d :: older) =
      (bridgeAfter host bridge older).receive host d.text := by
  simp only [bridgeAfter, List.map_cons, List.reverse_cons, Machine.run_concat]

theorem mirrorsThroughout_nil : MirrorsThroughout host bridge [] := by
  intro newer d older hsplit
  simp at hsplit

theorem mirrorsThroughout_cons {d : Datagram} {older : List Datagram} :
    MirrorsThroughout host bridge (d :: older) ↔
      (∀ s, (d.slots s).pad.Agrees ((bridgeAfter host bridge (d :: older)).view s)) ∧
        MirrorsThroughout host bridge older := by
  constructor
  · intro hmirrors
    refine ⟨hmirrors [] d older rfl, fun newer other rest hsplit => ?_⟩
    exact hmirrors (d :: newer) other rest (by rw [hsplit]; rfl)
  · intro hboth newer other rest hsplit
    obtain ⟨hhead, htail⟩ := hboth
    cases newer with
    | nil =>
        obtain ⟨rfl, rfl⟩ := List.cons.inj hsplit
        exact hhead
    | cons first newer => exact htail newer other rest (List.cons.inj hsplit).2

/-- The slots the last event showed, or those of the start. -/
def shown : List Datagram → Fin maxSlots → Slot
  | [] => fun _ => {}
  | d :: _ => d.slots

/-- What is left of the daemon's slots between events: they are as the last event showed
them, and idle pads show nothing but the guide button. -/
structure Told (pads : Pads) : Prop where
  slots : pads.slots = shown pads.datagrams
  idle : ∀ s, (pads.view s).Idle

theorem Told.agrees {pads : Pads} (htold : Told pads) (hfresh : bridge.slots = fun _ => {})
    (hmirrors : MirrorsThroughout host bridge pads.datagrams) (s : Fin maxSlots) :
    (pads.view s).Agrees ((bridgeAfter host bridge pads.datagrams).view s) := by
  have hslots := htold.slots
  cases hdatagrams : pads.datagrams with
  | nil =>
      rw [hdatagrams] at hslots
      have hbridge : (bridgeAfter host bridge []).view s = {} := by
        rw [bridgeAfter, List.map_nil, List.reverse_nil, Machine.run_nil, Bridge.view, hfresh]
        rfl
      rw [Pads.view, hslots, hbridge]
      exact ⟨rfl, fun _ => ⟨rfl, rfl⟩⟩
  | cons d older =>
      rw [hdatagrams] at hslots hmirrors
      rw [Pads.view, hslots]
      exact (mirrorsThroughout_cons.mp hmirrors).1 s

end

/-! ## What the daemon tells -/

section

variable (host : Host)

/-- An event goes out with the slots as they are, whatever was done before. -/
theorem eventUdpSend_told {message : List Char} (hmessage : Sendable message) {before pads : Pads}
    (hbefore : pads.datagrams = before.datagrams) :
    (eventUdpSend true message pads).datagrams =
      ⟨message.take 318 ++ ['\n'], (eventUdpSend true message pads).slots⟩ ::
        before.datagrams := by
  have hsend : eventUdpSend true message pads = _ := if_pos ⟨rfl, hmessage.2.1⟩
  rw [hsend, hbefore]

theorem postHidReport_datagrams (s : Fin maxSlots) (pads : Pads) :
    (postHidReport s pads).datagrams = pads.datagrams := by
  unfold postHidReport
  split <;> rfl

theorem createVirtualGamepad_datagrams (slot : UInt8) (pads : Pads) :
    (createVirtualGamepad host slot pads).2.datagrams = pads.datagrams := by
  simp only [createVirtualGamepad]
  split
  · split <;> rfl
  · rfl

/-- A pad event is told in one datagram, which shows the slots after it, or it changes nothing. -/
theorem handle_told (pads : Pads) (s : Fin maxSlots) (event : PadEvent) :
    if (pads.view s).tells event then
      (pads.handle host true (s, event)).datagrams =
        ⟨(event.text s).take 318 ++ ['\n'], (pads.handle host true (s, event)).slots⟩ ::
          pads.datagrams
    else pads.handle host true (s, event) = pads := by
  cases event with
  | connect =>
      by_cases hactive : (pads.slots s).active = true
      · have htells : (pads.view s).tells .connect = false := by
          simp [Pad.tells, Pads.view, Slot.pad, hactive]
        rw [htells, if_neg Bool.false_ne_true]
        simp only [Pads.handle, onConnect, slotIdx?_ofNat, if_pos hactive]
      · have htells : (pads.view s).tells .connect = true := by
          simp [Pad.tells, Pads.view, Slot.pad, hactive]
        rw [htells, if_pos rfl]
        simp only [Pads.handle, onConnect, slotIdx?_ofNat, if_neg hactive]
        exact eventUdpSend_told (connectedEvent_sendable s)
          (createVirtualGamepad_datagrams host (UInt8.ofNat s) pads)
  | disconnect =>
      by_cases hactive : (pads.slots s).active = true
      · have htells : (pads.view s).tells .disconnect = true := hactive
        rw [htells, if_pos rfl]
        simp only [Pads.handle, onDisconnect, slotIdx?_ofNat, if_pos hactive]
        refine eventUdpSend_told (disconnectedEvent_sendable s) ?_
        split <;> rfl
      · have htells : (pads.view s).tells .disconnect = false :=
          Bool.eq_false_of_not_eq_true hactive
        rw [htells, if_neg Bool.false_ne_true]
        simp only [Pads.handle, onDisconnect, slotIdx?_ofNat, if_neg hactive]
  | input g =>
      by_cases hactive : (pads.slots s).active = true
      · have htells : (pads.view s).tells (.input g) = true := hactive
        rw [htells, if_pos rfl]
        simp only [Pads.handle, reportInput, if_pos hactive]
        exact eventUdpSend_told (inputEvent_sendable s g) (postHidReport_datagrams s _)
      · have htells : (pads.view s).tells (.input g) = false :=
          Bool.eq_false_of_not_eq_true hactive
        rw [htells, if_neg Bool.false_ne_true]
        simp only [Pads.handle, if_neg hactive]
  | guide pressed =>
      have htells : (pads.view s).tells (.guide pressed) = true := rfl
      rw [htells, if_pos rfl]
      simp only [Pads.handle, onGuide, slotIdx?_ofNat]
      exact eventUdpSend_told (guideEvent_sendable s pressed) (postHidReport_datagrams s _)

theorem Told.handle {pads : Pads} (htold : Told pads) (call : Fin maxSlots × PadEvent) :
    Told (pads.handle host true call) := by
  obtain ⟨s, event⟩ := call
  have hcases := handle_told host pads s event
  constructor
  · split at hcases
    · rw [hcases]
      rfl
    · rw [hcases]
      exact htold.slots
  · intro other
    rw [view_handle]
    by_cases hother : other = s
    · rw [hother, Function.update_self]
      exact (htold.idle s).apply event
    · rw [Function.update_of_ne hother]
      exact htold.idle other

variable {bridgeHost : Host} {bridge : Bridge}

theorem mirrors_before {pads : Pads} {call : Fin maxSlots × PadEvent}
    (hmirrors : MirrorsThroughout bridgeHost bridge (pads.handle host true call).datagrams) :
    MirrorsThroughout bridgeHost bridge pads.datagrams := by
  obtain ⟨s, event⟩ := call
  have hcases := handle_told host pads s event
  split at hcases
  · rw [hcases] at hmirrors
    exact (mirrorsThroughout_cons.mp hmirrors).2
  · rwa [hcases] at hmirrors

/-- One pad event keeps the mirror exactly if the pad starts afresh. -/
theorem handle_mirrors_iff
    (hcreate : ∀ hid slot descriptor, bridgeHost.create hid slot descriptor = true)
    (hfresh : bridge.slots = fun _ => {}) {pads : Pads} (htold : Told pads)
    (hmirrors : MirrorsThroughout bridgeHost bridge pads.datagrams)
    (call : Fin maxSlots × PadEvent) :
    MirrorsThroughout bridgeHost bridge (pads.handle host true call).datagrams ↔
      (pads.view call.1).Starts call.2 := by
  obtain ⟨s, event⟩ := call
  have hcases := handle_told host pads s event
  have hagrees := htold.agrees hfresh hmirrors
  cases htells : (pads.view s).tells event with
  | false =>
      rw [htells, if_neg Bool.false_ne_true] at hcases
      rw [hcases]
      refine iff_of_true hmirrors ?_
      rintro rfl hinactive
      simp only [Pad.tells, hinactive, Bool.not_false] at htells
      cases htells
  | true =>
      rw [htells, if_pos rfl] at hcases
      rw [hcases, mirrorsThroughout_cons, and_iff_left hmirrors, bridgeAfter_cons,
        Bridge.view_receive _ hcreate, ← Pad.agrees_step_iff (hagrees s) (htold.idle s)]
      have hview (r : Fin maxSlots) : ((pads.handle host true (s, event)).slots r).pad = _ :=
        congrFun (view_handle host true pads s event) r
      simp only [hview]
      constructor
      · intro hall
        have hs := hall s
        rwa [Function.update_self, Function.update_self] at hs
      · intro hs r
        by_cases hr : r = s
        · rw [hr, Function.update_self, Function.update_self]
          exact hs
        · rw [Function.update_of_ne hr, Function.update_of_ne hr]
          exact hagrees r

/-- Events that all start afresh, one after the other. -/
def AllStart (pads : Pads) (calls : List (Fin maxSlots × PadEvent)) : Prop :=
  Always (Pads.handle host true) (fun pads call => (pads.view call.1).Starts call.2) pads calls

theorem allStart_one (pads : Pads) (call : Fin maxSlots × PadEvent) :
    AllStart host pads [call] ↔ (pads.view call.1).Starts call.2 :=
  Machine.always_one

/-- So do the events of a step. -/
theorem handles_mirrors_iff
    (hcreate : ∀ hid slot descriptor, bridgeHost.create hid slot descriptor = true)
    (hfresh : bridge.slots = fun _ => {}) {pads : Pads} (htold : Told pads)
    (hmirrors : MirrorsThroughout bridgeHost bridge pads.datagrams)
    (calls : List (Fin maxSlots × PadEvent)) :
    MirrorsThroughout bridgeHost bridge (run (Pads.handle host true) pads calls).datagrams ↔
      AllStart host pads calls :=
  Machine.run_iff_always (fun pads : Pads => MirrorsThroughout bridgeHost bridge pads.datagrams)
    Told (fun _ call htold => htold.handle host call) (fun _ _ _ => mirrors_before host)
    (fun _ call htold hmirrors => handle_mirrors_iff host hcreate hfresh htold hmirrors call)
    htold hmirrors calls

/-- Without an event stream nothing is told. -/
theorem handle_silent (pads : Pads) (call : Fin maxSlots × PadEvent) :
    (pads.handle host false call).datagrams = pads.datagrams := by
  have hsilent (message : List Char) (pads : Pads) : eventUdpSend false message pads = pads :=
    if_neg fun hsend => Bool.false_ne_true hsend.1
  obtain ⟨s, event⟩ := call
  cases event with
  | connect =>
      simp only [Pads.handle, onConnect, slotIdx?_ofNat, hsilent]
      split
      · rfl
      · exact createVirtualGamepad_datagrams host _ pads
  | disconnect =>
      simp only [Pads.handle, onDisconnect, slotIdx?_ofNat, hsilent]
      split
      · split <;> rfl
      · rfl
  | input g =>
      simp only [Pads.handle, reportInput, hsilent]
      split
      · exact postHidReport_datagrams s _
      · rfl
  | guide pressed =>
      simp only [Pads.handle, onGuide, slotIdx?_ofNat, hsilent]
      exact postHidReport_datagrams s _

end

/-! ## Pads and connects -/

theorem applyEvents_other {events : List (Fin maxSlots × PadEvent)} {s : Fin maxSlots}
    (hother : ∀ call ∈ events, call.1 ≠ s) (pads : Fin maxSlots → Pad) :
    applyEvents events pads s = pads s := by
  have hupdate := applyEvents_update hother (pads s) pads
  rw [Function.update_eq_self] at hupdate
  rw [hupdate, Function.update_self]

/-- Pads that show anything belong to stations that had their connect. -/
def Link.Earned (link : Link) : Prop :=
  ∀ i s, padOf? i = some s → link.pads s = {} ∨
    (link.table.peers i).active = true ∧ (link.table.peers i).handshakeDone = true

namespace Link.Earned

variable {link : Link}

theorem register (hearned : link.Earned) (hwf : link.table.WF) (mac : Mac) :
    Link.Earned ⟨link.table.register mac, link.pads⟩ := by
  intro i s hpad
  cases hfind : link.table.findPeerByMac mac with
  | some j =>
      rw [PeerTable.register_known hfind]
      exact hearned i s hpad
  | none =>
      rw [PeerTable.register, hwf.remember_new hfind]
      by_cases hnext : i = hwf.next
      · have hi := PeerTable.padOf?_some hpad
        have hs : s.val < 8 := s.isLt
        have hval : i.val = link.table.nextWcid.toNat := congrArg Fin.val hnext
        have hinactive : (link.table.peers i).active = false := hwf.fresh (by omega) i (by omega)
        refine Or.inl ((hearned i s hpad).resolve_right fun hdone => ?_)
        exact Bool.false_ne_true (hinactive.symm.trans hdone.1)
      · rcases hearned i s hpad with hempty | hdone
        · exact Or.inl hempty
        · refine Or.inr ?_
          rw [PeerTable.setPeer_other hnext]
          exact hdone

/-- The pad of a station that has not had its connect shows nothing. -/
theorem blank (hearned : link.Earned) (hwf : link.table.WF) {mac : Mac} {s : Fin maxSlots}
    (hpad : padOf? (link.table.entry mac) = some s)
    (hdone : ((link.table.register mac).peers (link.table.entry mac)).handshakeDone = false) :
    link.pads s = {} := by
  refine (hearned.register hwf mac _ s hpad).resolve_right fun hconnected => ?_
  exact Bool.false_ne_true (hdone.symm.trans hconnected.2)

/-- The station that has its first contact ends with its connect done, and pads of other
stations stay as they are. -/
theorem contact (hearned : link.Earned) (hwf : link.table.WF) (mac : Mac) :
    (link.contact mac).Earned ∧ ∀ s, padOf? (link.table.entry mac) = some s →
      ((link.contact mac).table.peers (link.table.entry mac)).active = true ∧
        ((link.contact mac).table.peers (link.table.entry mac)).handshakeDone = true := by
  have hdone : ∀ s, padOf? (link.table.entry mac) = some s →
      ((link.contact mac).table.peers (link.table.entry mac)).active = true ∧
        ((link.contact mac).table.peers (link.table.entry mac)).handshakeDone = true := by
    intro s hpad
    simp only [Link.contact, PeerTable.attach_of_pad hpad, PeerTable.setPeer_same]
    exact ⟨(hwf.entry_active mac).1, trivial⟩
  refine ⟨fun i s hpad => ?_, hdone⟩
  by_cases hi : i = link.table.entry mac
  · exact Or.inr (hi ▸ hdone s (hi ▸ hpad))
  · have hpads : (link.contact mac).pads s = link.pads s :=
      applyEvents_other (Link.Holds.attachEvents_other hpad (Ne.symm hi)) link.pads
    have hpeer : (link.contact mac).table.peers i = (link.table.register mac).peers i := by
      simp only [Link.contact, PeerTable.attach]
      split
      · rfl
      · rw [PeerTable.setPeer_other hi]
    rw [hpads, hpeer]
    exact hearned.register hwf mac i s hpad

/-- The event of a frame only concerns a station that had its connect. -/
theorem dispatch (hearned : link.Earned) {j : Fin maxPeers}
    (hdone : ∀ s, padOf? j = some s →
      (link.table.peers j).active = true ∧ (link.table.peers j).handshakeDone = true)
    (event : GipEvent) : (link.dispatch j event).Earned := by
  simp only [Link.dispatch]
  cases hj : padOf? j with
  | none => exact hearned
  | some r =>
      cases event with
      | pad event =>
          intro i s hpad
          by_cases hs : s = r
          · have hi : i = j := Link.Holds.padOf?_inj hpad (hs ▸ hj)
            exact Or.inr (hi ▸ hdone r hj)
          · simp only [Function.update_of_ne hs]
            exact hearned i s hpad
      | announce =>
          intro i s hpad
          by_cases hi : i = j
          · rw [hi]
            simp only [PeerTable.greet, PeerTable.setPeer_same]
            exact Or.inr (hdone r hj)
          · simp only [PeerTable.greet, PeerTable.setPeer_other hi]
            exact hearned i s hpad
      | other => exact hearned

theorem step (hearned : link.Earned) (hwf : link.table.WF) (stimulus : Stimulus) :
    (link.step stimulus).Earned := by
  cases stimulus with
  | quiet => exact hearned
  | register mac => exact hearned.register hwf mac
  | associate mac reassoc =>
      simp only [Link.step, PeerTable.step]
      split
      · exact hearned
      · intro i s hpad
        rcases hearned.register hwf mac i s hpad with hempty | hdone
        · exact Or.inl hempty
        · refine Or.inr ?_
          simp only [PeerTable.addClient, PeerTable.setPeer_peers]
          split
          next hi => exact hi ▸ hdone
          next => exact hdone
  | action mac => exact (hearned.contact hwf mac).1
  | data mac frame =>
      rw [Link.step_data]
      exact (hearned.contact hwf mac).1.dispatch (hearned.contact hwf mac).2 frame.event
  | lost gone =>
      intro i s hpad
      rcases hearned i s hpad with hempty | hdone
      · refine Or.inl ?_
        simp only [Link.step, PeerTable.padEvents, applyEvents, List.foldl_cons, List.foldl_nil]
        by_cases hs : s = gone
        · rw [← hs, Function.update_self, hempty]
          rfl
        · rw [Function.update_of_ne hs]
          exact hempty
      · exact Or.inr hdone

end Link.Earned

/-! ## Steps -/

/-- A pad that is connected by a packet does not show the guide button pressed. -/
def StartsAfresh (daemon : Daemon) : Step → Prop
  | .transfer _ t => ∀ frame, rxFrame? t = some frame → frame.QosData daemon.air.ourMac →
      frame.gipCommand? = some gipCmdCtrlAdded →
      ∀ s, daemon.table.slotOf? frame.src = some s → (daemon.pads.slots s).active = false →
        (daemon.pads.slots s).guidePressed = false
  | .housekeeping _ _ => True

/-- The same for the event of a stimulus. -/
def Link.StartsAfresh (link : Link) (stimulus : Stimulus) : Prop :=
  ∀ mac frame, stimulus = .data mac frame → ∀ event, frame.event = .pad event →
    ∀ s, link.table.slotOf? mac = some s → (link.pads s).Starts event

theorem startsAfresh_iff (env : Env) (daemon : Daemon) (step : Step) :
    StartsAfresh daemon step ↔
      daemon.link.StartsAfresh (step.stimulus env daemon.air.ourMac) := by
  cases step with
  | housekeeping now scanNow =>
      exact iff_of_true trivial fun mac frame hstimulus => by cases hstimulus
  | transfer now t =>
      constructor
      · rintro hstarts mac gip hstimulus event hevent s hslot rfl hinactive
        obtain ⟨frame, hfrom, hframe⟩ := (Step.stimulus_eq_iff (by simp) (by simp)
          fun frame hframe => (RxFrame.stimulus_eq_data.mp hframe).2.1).mp hstimulus
        obtain ⟨hdata, rfl, rfl⟩ := RxFrame.stimulus_eq_data.mp hframe
        exact hstarts frame (Option.filter_eq_some_iff.mp hfrom).1 hdata
          (frame.gip_event.1.mp hevent) s hslot hinactive
      · intro hstarts frame hframe hdata hcommand s hslot hinactive
        have hstimulus : (Step.transfer now t).stimulus env daemon.air.ourMac = _ :=
          (Transfer.stimulus_frame hframe env daemon.air.ourMac).trans
            (RxFrame.stimulus_data hdata)
        exact hstarts frame.src frame.gip hstimulus .connect (frame.gip_event.1.mpr hcommand) s
          hslot rfl hinactive

theorem starts_of_fresh {pad : Pad} (hfresh : pad = {}) (event : PadEvent) : pad.Starts event := by
  rw [hfresh]
  exact fun _ _ => rfl

/-- The pad events of a step all start afresh if the one of its packet does: a first
contact connects a pad that shows nothing. -/
theorem padEvents_start_iff (host : Host) {daemon : Daemon} (hwf : daemon.table.WF)
    (hearned : daemon.link.Earned) (stimulus : Stimulus) :
    AllStart host daemon.pads (daemon.table.padEvents stimulus) ↔
      daemon.link.StartsAfresh stimulus := by
  have hslotOf {mac : Mac} {s : Fin maxSlots} (hslot : daemon.table.slotOf? mac = some s) :
      padOf? (daemon.table.entry mac) = some s := by
    obtain ⟨i, hfind, hpad⟩ := hwf.slotOf?_eq_some_iff.mp hslot
    rwa [PeerTable.entry_known hfind]
  cases stimulus with
  | quiet => exact iff_of_true Machine.always_nil fun mac frame hdata => by cases hdata
  | register mac => exact iff_of_true Machine.always_nil fun mac frame hdata => by cases hdata
  | associate mac reassoc =>
      exact iff_of_true Machine.always_nil fun mac frame hdata => by cases hdata
  | lost gone =>
      refine iff_of_true ?_ fun mac frame hdata => by cases hdata
      refine Machine.always_cons.mpr ⟨?_, Machine.always_nil⟩
      rintro ⟨⟩
  | action mac =>
      refine iff_of_true ?_ fun mac frame hdata => by cases hdata
      simp only [PeerTable.padEvents, PeerTable.attachEvents]
      split
      next => exact Machine.always_nil
      next s hpad =>
        split
        next => exact Machine.always_nil
        next hdone =>
          have hfirst := hearned.blank hwf hpad (Bool.eq_false_of_not_eq_true hdone)
          exact Machine.always_cons.mpr ⟨starts_of_fresh hfirst _, Machine.always_nil⟩
  | data mac frame =>
      simp only [PeerTable.padEvents, PeerTable.attachEvents, PeerTable.gipEvents]
      cases hpad : padOf? (daemon.table.entry mac) with
      | none =>
          refine iff_of_true Machine.always_nil ?_
          rintro _ _ ⟨⟩ event hevent s hslot
          exact absurd (hpad.symm.trans (hslotOf hslot)) (by simp)
      | some s =>
          cases hdone : ((daemon.table.register mac).peers
              (daemon.table.entry mac)).handshakeDone with
          | false =>
              have hview : daemon.pads.view s = {} := hearned.blank hwf hpad hdone
              have hconnected : ((daemon.pads.handle host true (s, .connect)).view s).active =
                  true := by
                rw [view_handle, Function.update_self, Pad.apply_active]
              refine iff_of_true ?_ ?_
              · refine Machine.always_cons.mpr ⟨starts_of_fresh hview _, ?_⟩
                cases frame.event with
                | pad event =>
                    refine Machine.always_one.mpr fun _ hinactive => ?_
                    exact absurd (hinactive.symm.trans hconnected) Bool.false_ne_true
                | announce => exact Machine.always_nil
                | other => exact Machine.always_nil
              · rintro _ _ ⟨⟩ event hevent r hslot
                obtain rfl : r = s := Option.some.inj ((hslotOf hslot).symm.trans hpad)
                exact starts_of_fresh hview event
          | true =>
              have hslot := hwf.slotOf?_contacted hpad hdone
              simp only [↓reduceIte, List.nil_append]
              constructor
              · rintro halways _ _ ⟨⟩ event hevent r hr
                obtain rfl : r = s := Option.some.inj (hr.symm.trans hslot)
                rw [hevent] at halways
                exact (allStart_one host daemon.pads (r, event)).mp halways
              · intro hstarts
                cases hevent : frame.event with
                | pad event =>
                    exact (allStart_one host daemon.pads (s, event)).mpr
                      (hstarts mac frame rfl event hevent s hslot)
                | announce => exact Machine.always_nil
                | other => exact Machine.always_nil

/-! ## Runs -/

section

variable (world : World) {host : Host} {bridge : Bridge}

/-- The state between steps. -/
structure Streams (daemon : Daemon) : Prop where
  wf : daemon.table.WF
  earned : daemon.link.Earned
  told : Told daemon.pads

theorem Streams.step (heventUdp : world.eventUdp = true) {daemon : Daemon}
    (hstreams : Streams daemon) (step : Step) : Streams (daemon.step world step) := by
  obtain ⟨hwf, hearned, htold⟩ := hstreams
  refine ⟨step_wf world hwf step, ?_, ?_⟩
  · rw [step_link world hwf step]
    exact hearned.step hwf _
  · rw [step_pads world hwf, heventUdp]
    exact Machine.run_invariant Told (fun _ call htold => htold.handle world.host call) htold _

theorem boots_streams (heventUdp : world.eventUdp = true) {boot : Daemon}
    (hboot : Boots world boot) : Streams boot ∧
      (boot.pads.datagrams = [] ∨ boot.pads.datagrams =
        [⟨hidUnavailableEvent.take 318 ++ ['\n'], fun _ => {}⟩]) := by
  have hslots := boots_slots world hboot
  have hview : boot.pads.view = fun _ => {} := by
    funext s
    rw [Pads.view, hslots]
    rfl
  have hsent : boot.pads.datagrams = [] ∨ boot.pads.datagrams =
      [⟨hidUnavailableEvent.take 318 ++ ['\n'], fun _ => {}⟩] := by
    rw [(boots_start world hboot).2, heventUdp]
    simp only [probeHidSupport]
    split
    · exact Or.inl rfl
    · exact Or.inr (eventUdpSend_told hidUnavailableEvent_sendable rfl)
  refine ⟨⟨boots_wf world hboot, ?_, ?_, ?_⟩, hsent⟩
  · intro i s hpad
    exact Or.inl (congrFun hview s)
  · rw [hslots]
    rcases hsent with hnone | hone
    · rw [hnone]
      rfl
    · rw [hone]
      rfl
  · intro s
    rw [hview]
    exact fun _ => rfl

/-- With the event stream off nothing is ever told. -/
theorem run_silent (heventUdp : world.eventUdp = false) {boot : Daemon} (hboot : Boots world boot)
    (steps : List Step) : (run (Daemon.step world) boot steps).pads.datagrams = [] := by
  refine (Machine.run_invariant (fun daemon : Daemon =>
    daemon.table.WF ∧ daemon.pads.datagrams = []) ?_ ⟨boots_wf world hboot, ?_⟩ steps).2
  · intro daemon step hinv
    obtain ⟨hwf, hsilent⟩ := hinv
    refine ⟨step_wf world hwf step, ?_⟩
    rw [step_pads world hwf, heventUdp]
    exact Machine.run_invariant (fun pads : Pads => pads.datagrams = [])
      (fun pads call hpads => (handle_silent world.host pads call).trans hpads) hsilent _
  · rw [(boots_start world hboot).2, heventUdp]
    simp only [probeHidSupport]
    split <;> rfl

theorem step_mirrors_iff (hcreate : ∀ hid slot descriptor, host.create hid slot descriptor = true)
    (hfresh : bridge.slots = fun _ => {}) (heventUdp : world.eventUdp = true) {daemon : Daemon}
    (hstreams : Streams daemon) (hmirrors : MirrorsThroughout host bridge daemon.pads.datagrams)
    (step : Step) :
    MirrorsThroughout host bridge (daemon.step world step).pads.datagrams ↔
      StartsAfresh daemon step := by
  obtain ⟨hwf, hearned, htold⟩ := hstreams
  rw [step_pads world hwf, heventUdp, handles_mirrors_iff world.host hcreate hfresh htold hmirrors,
    padEvents_start_iff world.host hwf hearned, startsAfresh_iff world.env]

theorem step_mirrors_before (heventUdp : world.eventUdp = true) {daemon : Daemon}
    (hstreams : Streams daemon) (step : Step)
    (hmirrors : MirrorsThroughout host bridge (daemon.step world step).pads.datagrams) :
    MirrorsThroughout host bridge daemon.pads.datagrams := by
  rw [step_pads world hstreams.wf, heventUdp] at hmirrors
  exact Machine.run_back (fun pads : Pads => MirrorsThroughout host bridge pads.datagrams) Told
    (fun _ call htold => htold.handle world.host call) (fun _ _ _ => mirrors_before world.host)
    hstreams.told hmirrors

/-- A bridge that was started before the daemon mirrors it after every event of a run if and only
if there is no event stream at all, or no packet ever connects a pad whose guide button was
pressed while the pad was not in use. -/
theorem bridge_mirrors_iff (hcreate : ∀ hid slot descriptor, host.create hid slot descriptor = true)
    (hstart : Bridge.start host = some bridge) {boot : Daemon} (hboot : Boots world boot)
    (steps : List Step) :
    MirrorsThroughout host bridge (run (Daemon.step world) boot steps).pads.datagrams ↔
      (world.eventUdp = true → Always (Daemon.step world) StartsAfresh boot steps) := by
  have hfresh := Bridge.start_slots hstart
  cases heventUdp : world.eventUdp with
  | false =>
      rw [run_silent world heventUdp hboot steps]
      exact iff_of_true mirrorsThroughout_nil fun hon => absurd hon Bool.false_ne_true
  | true =>
      obtain ⟨hstreams, hsent⟩ := boots_streams world heventUdp hboot
      have hmirrors : MirrorsThroughout host bridge boot.pads.datagrams := by
        -- the boot sends at most that the HID device is unavailable, which the bridge ignores
        rcases hsent with hnone | hone
        · rw [hnone]
          exact mirrorsThroughout_nil
        · rw [hone]
          refine mirrorsThroughout_cons.mpr ⟨fun s => ?_, mirrorsThroughout_nil⟩
          have hview : bridge.view s = {} := by
            rw [Bridge.view, hfresh]
            rfl
          rw [bridgeAfter_cons, Bridge.receive_hidUnavailable, bridgeAfter, List.map_nil,
            List.reverse_nil, Machine.run_nil, hview]
          exact ⟨rfl, fun _ => ⟨rfl, rfl⟩⟩
      have hrun := Machine.run_iff_always
        (fun daemon : Daemon => MirrorsThroughout host bridge daemon.pads.datagrams) Streams
        (fun _ step hstreams => hstreams.step world heventUdp step)
        (fun _ step hstreams => step_mirrors_before world heventUdp hstreams step)
        (fun _ step hstreams hmirrors =>
          step_mirrors_iff world hcreate hfresh heventUdp hstreams hmirrors step)
        hstreams hmirrors steps
      exact hrun.trans ⟨fun halways _ => halways, fun halways => halways rfl⟩

end

/-! ## The lost guide button -/

/-- `romWorld` with an event stream. -/
def udpWorld (rom : Nat → UInt8) : World := { romWorld rom with eventUdp := true }

def udpBoot : Daemon := bootOf (udpWorld plainRom) (by decide +kernel)

theorem udpBoot_boots : Boots (udpWorld plainRom) udpBoot :=
  bootOf_boots _ _

/-- A user session that creates every device, and the bridge in it. -/
def userHost : Host := ⟨fun _ _ _ => true⟩

def userBridge : Bridge :=
  { hid := [.release, .create 0 .primary true] }

/-- The guide button is pressed. -/
def guideStep : Step := packetStep [0x07, 0x00, 0x03, 0x02, 0x01, 0x5b] (by decide)

/-- A controller connects, is lost, presses its guide button and connects again. -/
def guideSteps : List Step :=
  [addedStep, removedStep, guideStep, addedStep]

theorem bridge_mirrors_iff_guide :
    MirrorsThroughout userHost userBridge
        (run (Daemon.step (udpWorld plainRom)) udpBoot guideSteps).pads.datagrams ↔
      ((udpWorld plainRom).eventUdp = true →
        Always (Daemon.step (udpWorld plainRom)) StartsAfresh udpBoot guideSteps) :=
  bridge_mirrors_iff (udpWorld plainRom) (fun _ _ _ => rfl) rfl udpBoot_boots guideSteps

/-- The daemon's slot comes up with the guide button pressed, the bridge's without. -/
theorem guide_not_mirrored :
    ¬MirrorsThroughout userHost userBridge
      (run (Daemon.step (udpWorld plainRom)) udpBoot guideSteps).pads.datagrams := by
  intro hmirrors
  have hlast : ((run (Daemon.step (udpWorld plainRom)) udpBoot guideSteps).pads.datagrams.head?.map
      fun d => (d.slots 0).pad) = some ⟨true, true, { buttons := hidBtnGuide, hat := 8 }⟩ := by
    decide +kernel
  have hbridge : (bridgeAfter userHost userBridge
      (run (Daemon.step (udpWorld plainRom)) udpBoot guideSteps).pads.datagrams).view 0 =
        ⟨true, false, { hat := 8 }⟩ := by
    decide +kernel
  generalize (run (Daemon.step (udpWorld plainRom)) udpBoot guideSteps).pads.datagrams = datagrams
    at hmirrors hlast hbridge
  cases datagrams with
  | nil => cases hlast
  | cons d older =>
      have hpad : (d.slots 0).pad = ⟨true, true, { buttons := hidBtnGuide, hat := 8 }⟩ :=
        Option.some.inj hlast
      obtain ⟨-, hcontent⟩ := (mirrorsThroughout_cons.mp hmirrors).1 0
      rw [hpad, hbridge] at hcontent
      exact absurd (hcontent rfl).1 (by decide)

end XoneDarwin
