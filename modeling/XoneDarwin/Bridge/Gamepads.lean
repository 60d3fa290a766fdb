import XoneDarwin.Bridge.Mirror
import XoneDarwin.Daemon.Gamepads

/-!
# The life of a gamepad in the bridge

The bridge makes the same calls as the daemon, driven by whatever arrives on its port.
Whatever that is, the calls for a slot follow the life cycle of a gamepad, and a gamepad
always shows the report of its slot.
-/

namespace XoneDarwin

open CString
open Machine (accept callsOf emitted fresh run)

/-- The phase goes with what the slot holds: a gamepad is there just while the slot is active, and
its report is posted. -/
def BridgeSlot.InPhase (slot : BridgeSlot) : GamepadPhase → Prop
  | .absent => slot.active = false ∧ slot.hidDevice = false
  | .refused => False
  | .present shown => slot.active = true ∧ slot.hidDevice = true ∧ shown = some slot.lastReport

namespace Bridge

/-- Some calls are made for a slot, and they lead to a phase that goes with what the slot becomes. -/
def Calls (before after : Bridge) (i : Fin maxSlots) : Prop :=
  ∃ slot calls, after.slots = (before.setSlot i slot).slots ∧ after.hid = calls ++ before.hid ∧
    ∀ phase, (before.slots i).InPhase phase →
      ∃ later, accept (GamepadPhase.next i) phase calls.reverse = some later ∧ slot.InPhase later

section

variable (host : Host) {bridge : Bridge}

/-! ## The handlers -/

theorem calls_none (i : Fin maxSlots) : bridge.Calls bridge i := by
  refine ⟨bridge.slots i, [], ?_, rfl, fun phase hphase => ⟨phase, rfl, hphase⟩⟩
  simp [setSlot]

theorem createVirtualGamepad_calls (bridge : Bridge) (i : Fin maxSlots) :
    ∃ calls, (createVirtualGamepad host (UInt8.ofNat i) bridge).2.hid = calls ++ bridge.hid ∧
      accept (GamepadPhase.next i) .absent calls.reverse =
        some (if (createVirtualGamepad host (UInt8.ofNat i) bridge).1 then .present none
          else .absent) := by
  unfold createVirtualGamepad
  by_cases hprimary : host.create bridge.hid (UInt8.ofNat i) .primary = true
  · simp only [makeHidDevice, hprimary, if_true]
    exact ⟨[.create (UInt8.ofNat i) .primary true], rfl, by simp [GamepadPhase.next]⟩
  · simp only [makeHidDevice, Bool.eq_false_of_not_eq_true hprimary, Bool.false_eq_true, if_false]
    generalize host.create _ (UInt8.ofNat i) .fallback = ok
    exact ⟨[.create (UInt8.ofNat i) .fallback ok, .create (UInt8.ofNat i) .primary false], rfl,
      by simp [GamepadPhase.next]⟩

/-- An active slot changes what it shows and posts it. -/
theorem post_calls {i : Fin maxSlots} (slot : BridgeSlot) (hactive : (bridge.slots i).active = true)
    (hsame : slot.active = true) (hdevice : slot.hidDevice = (bridge.slots i).hidDevice) :
    bridge.Calls (postHidReport i (bridge.setSlot i slot)) i := by
  refine ⟨slot, if slot.hidDevice then [.report slot.lastReport] else [], ?_, ?_, ?_⟩
  · unfold postHidReport
    split <;> rfl
  · simp only [postHidReport, setSlot, Function.update_self]
    split <;> rfl
  · intro phase hphase
    cases phase with
    | absent => exact absurd (hphase.1.symm.trans hactive) Bool.false_ne_true
    | refused => exact hphase.elim
    | present shown =>
        have hsome : slot.hidDevice = true := hdevice.trans hphase.2.1
        rw [hsome]
        exact ⟨.present (some slot.lastReport), rfl, hsame, hsome, rfl⟩

theorem handleConnected_calls {slot : Int} {i : Fin maxSlots} (hslot : bridgeSlot? slot = some i) :
    bridge.Calls (bridge.handleConnected host slot) i := by
  simp only [handleConnected, hslot]
  split
  · exact calls_none i
  next hinactive =>
    obtain ⟨calls, hhid, haccept⟩ := createVirtualGamepad_calls host bridge i
    have hslots := createVirtualGamepad_slots bridge host (UInt8.ofNat i)
    have habsent {phase : GamepadPhase} (hphase : (bridge.slots i).InPhase phase) :
        phase = .absent := by
      cases phase with
      | absent => rfl
      | refused => exact hphase.elim
      | present shown => exact absurd hphase.1 hinactive
    split
    next hcreated =>
      refine ⟨
        { active := true, guidePressed := false, hidDevice := true, lastReport := { hat := 8 } },
        .report { hat := 8 } :: calls, ?_, ?_, fun phase hphase => ?_⟩
      · simp only [postHidReport, setSlot, Function.update_self, if_true, hslots]
      · simp [postHidReport, setSlot, hhid]
      · rw [habsent hphase, List.reverse_cons, Machine.accept_append, haccept, if_pos hcreated]
        exact ⟨.present (some { hat := 8 }), rfl, rfl, rfl, rfl⟩
    next hfailed =>
      refine ⟨{ bridge.slots i with hidDevice := false }, calls, ?_, hhid, fun phase hphase => ?_⟩
      · simp only [setSlot, hslots]
      · rw [habsent hphase, haccept, if_neg hfailed]
        exact ⟨.absent, rfl, Bool.eq_false_of_not_eq_true hinactive, rfl⟩

theorem handleDisconnected_calls {slot : Int} {i : Fin maxSlots}
    (hslot : bridgeSlot? slot = some i) : bridge.Calls (bridge.handleDisconnected slot) i := by
  simp only [handleDisconnected, hslot]
  split
  next hactive =>
    refine ⟨{}, if (bridge.slots i).hidDevice then [.release] else [], ?_, ?_,
      fun phase hphase => ?_⟩
    · simp only [setSlot]
      split <;> rfl
    · simp only [setSlot]
      split <;> rfl
    · cases phase with
      | absent => exact absurd (hphase.1.symm.trans hactive) Bool.false_ne_true
      | refused => exact hphase.elim
      | present shown =>
          rw [hphase.2.1]
          exact ⟨.absent, rfl, rfl, rfl⟩
  · exact calls_none i

theorem handleGuide_calls {slot : Int} {i : Fin maxSlots} (hslot : bridgeSlot? slot = some i)
    (pressed : Bool) : bridge.Calls (bridge.handleGuide slot pressed) i := by
  simp only [handleGuide, hslot]
  split
  next hactive => exact post_calls _ hactive (by exact hactive) (by rfl)
  next => exact calls_none i

/-! ## Lines -/

/-- The slot that a line is about. -/
def lineSlot? (line : List Char) : Option (Fin maxSlots) :=
  (jsonGetInt line "slot").bind bridgeSlot?

theorem handleInput_calls {line : List Char} {i : Fin maxSlots} (hslot : lineSlot? line = some i) :
    bridge.Calls (bridge.handleInput line) i := by
  have hslot' : (jsonGetInt line "slot").bind bridgeSlot? = some i := hslot
  simp only [handleInput, hslot']
  split
  next hactive => exact post_calls _ hactive (by exact hactive) (by rfl)
  next => exact calls_none i

/-- A line makes calls for its slot, -/
theorem handleEventLine_calls (bridge : Bridge) {line : List Char} {i : Fin maxSlots}
    (hslot : lineSlot? line = some i) : bridge.Calls (bridge.handleEventLine host line) i := by
  obtain ⟨slot, hget, hrange⟩ := Option.bind_eq_some_iff.mp hslot
  simp only [handleEventLine, hget]
  split
  · exact handleConnected_calls host hrange
  split
  · exact handleDisconnected_calls hrange
  split
  · cases jsonGetBool line "pressed" with
    | none => exact calls_none i
    | some pressed => exact handleGuide_calls hrange pressed
  split
  · exact handleInput_calls hslot
  · exact calls_none i

/-- and without one it makes none. -/
theorem handleEventLine_slotless {line : List Char} (hslot : lineSlot? line = none) :
    bridge.handleEventLine host line = bridge := by
  have hrange : ∀ slot, jsonGetInt line "slot" = some slot → bridgeSlot? slot = none :=
    fun slot hget => by simpa [lineSlot?, hget] using hslot
  have hinput : bridge.handleInput line = bridge := by
    have hslot' : (jsonGetInt line "slot").bind bridgeSlot? = none := hslot
    simp only [handleInput, hslot']
  simp only [handleEventLine, hinput]
  cases hget : jsonGetInt line "slot" with
  | none => simp
  | some slot =>
      have hnone := hrange slot hget
      cases jsonGetBool line "pressed" with
      | none => simp [handleConnected, handleDisconnected, hnone]
      | some pressed => simp [handleConnected, handleDisconnected, handleGuide, hnone]

/-- The calls of a line, made for its slot. -/
def lineCalls (bridge : Bridge) (line : List Char) : List (Fin maxSlots × HidIo) :=
  match lineSlot? line with
  | none => []
  | some i => (fresh bridge.hid (bridge.handleEventLine host line).hid).map (Prod.mk i)

theorem handleEventLine_hid (line : List Char) :
    (bridge.handleEventLine host line).hid =
      ((bridge.lineCalls host line).map Prod.snd).reverse ++ bridge.hid := by
  unfold lineCalls
  cases hslot : lineSlot? line with
  | none => exact congrArg hid (handleEventLine_slotless host hslot)
  | some i =>
      obtain ⟨-, calls, -, hhid, -⟩ := handleEventLine_calls host bridge hslot
      rw [hhid, Machine.fresh_append, List.map_map]
      simp [Function.comp_def]

theorem handleEventLine_accept (line : List Char) (i : Fin maxSlots) (phase : GamepadPhase)
    (hphase : (bridge.slots i).InPhase phase) :
    ∃ later, accept (GamepadPhase.next i) phase
        (callsOf i (bridge.lineCalls host line)) = some later ∧
      ((bridge.handleEventLine host line).slots i).InPhase later := by
  unfold lineCalls
  cases hslot : lineSlot? line with
  | none =>
      rw [handleEventLine_slotless host hslot]
      exact ⟨phase, rfl, hphase⟩
  | some j =>
      obtain ⟨slot, calls, hslots, hhid, haccept⟩ :=
        handleEventLine_calls host bridge hslot
      rw [hhid, Machine.fresh_append, Machine.callsOf_tagged, hslots]
      by_cases hj : j = i
      · subst hj
        obtain ⟨later, hcalls, hlater⟩ := haccept phase hphase
        rw [if_pos rfl]
        exact ⟨later, hcalls, by simpa [setSlot] using hlater⟩
      · rw [if_neg hj]
        exact ⟨phase, rfl, by simpa [setSlot, Ne.symm hj] using hphase⟩

/-! ## Runs -/

def datagramCalls (bridge : Bridge) (datagram : List Char) : List (Fin maxSlots × HidIo) :=
  emitted (handleEventLine host) (lineCalls host) bridge (lines datagram)

/-- The probe in front of the loop is made as slot 0. -/
theorem start_accept {bridge : Bridge} (hstart : start host = some bridge) :
    bridge.slots = (fun _ => {}) ∧
      accept (GamepadPhase.next 0) .absent bridge.hid.reverse = some .absent := by
  unfold start at hstart
  dsimp only at hstart
  split at hstart
  next hcreated =>
    obtain ⟨calls, hhid, haccept⟩ := createVirtualGamepad_calls host {} 0
    have hprobe : (createVirtualGamepad host 0 {}).2.hid = calls ++ [] := hhid
    have hsome : accept (GamepadPhase.next 0) .absent calls.reverse = some (.present none) :=
      haccept.trans (congrArg some (if_pos hcreated))
    obtain rfl := Option.some.inj hstart
    refine ⟨createVirtualGamepad_slots {} host 0, ?_⟩
    dsimp only
    rw [hprobe, List.append_nil, List.reverse_cons, Machine.accept_append, hsome]
    rfl
  next => cases hstart

/-- Whatever datagrams the bridge receives, its HID log is the probe and the calls it makes for the
slots its lines name; the calls of every slot follow the life cycle of a gamepad, which is there
just while the slot is active and then shows its report. -/
theorem bridge_gamepads {bridge : Bridge} (hstart : start host = some bridge)
    (datagrams : List (List Char)) :
    (run (receive host) bridge datagrams).hid =
        ((emitted (receive host) (datagramCalls host) bridge datagrams).map Prod.snd).reverse ++
          bridge.hid ∧
      accept (GamepadPhase.next 0) .absent bridge.hid.reverse = some .absent ∧
      ∀ i, ∃ phase, accept (GamepadPhase.next i) .absent
          (callsOf i (emitted (receive host) (datagramCalls host) bridge datagrams)) = some phase ∧
        ((run (receive host) bridge datagrams).slots i).InPhase phase := by
  obtain ⟨hslots, hprobe⟩ := start_accept host hstart
  refine ⟨?_, hprobe, fun i => ?_⟩
  · refine Machine.log_run Prod.snd hid (fun _ => True) (fun _ _ _ => trivial) ?_ trivial _
    intro bridge datagram _
    exact Machine.log_run Prod.snd hid (fun _ => True) (fun _ _ _ => trivial)
      (fun bridge line _ => handleEventLine_hid host line) trivial (lines datagram)
  · refine Machine.emitted_accept GamepadPhase.next
      (fun (bridge : Bridge) i => (bridge.slots i).InPhase) (fun _ => True)
      (fun _ _ _ => trivial) ?_ trivial (by rw [hslots]; exact ⟨rfl, rfl⟩) datagrams
    intro bridge datagram i phase _ hphase
    exact Machine.emitted_accept GamepadPhase.next
      (fun (bridge : Bridge) i => (bridge.slots i).InPhase) (fun _ => True)
      (fun _ _ _ => trivial)
      (fun bridge line i phase _ => handleEventLine_accept host line i phase) trivial hphase
      (lines datagram)

end

/-- A slot connects twice and disconnects. -/
theorem bridge_gamepads_user :
    (run (receive userHost) userBridge
        [connectedEvent 3, connectedEvent 3, disconnectedEvent 3]).hid =
        ((emitted (receive userHost) (datagramCalls userHost) userBridge
          [connectedEvent 3, connectedEvent 3, disconnectedEvent 3]).map Prod.snd).reverse ++
          userBridge.hid ∧
      accept (GamepadPhase.next 0) .absent userBridge.hid.reverse = some .absent ∧
      ∀ i, ∃ phase, accept (GamepadPhase.next i) .absent
          (callsOf i (emitted (receive userHost) (datagramCalls userHost) userBridge
            [connectedEvent 3, connectedEvent 3, disconnectedEvent 3])) = some phase ∧
        ((run (receive userHost) userBridge
          [connectedEvent 3, connectedEvent 3, disconnectedEvent 3]).slots i).InPhase phase :=
  bridge_gamepads userHost rfl [connectedEvent 3, connectedEvent 3, disconnectedEvent 3]

end Bridge

end XoneDarwin
