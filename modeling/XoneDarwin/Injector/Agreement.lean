import XoneDarwin.Bridge.Stream
import XoneDarwin.Daemon.Recovery
import XoneDarwin.Injector.Triggers

/-!
# Bridge and injector

Both follow the daemon's events with slots of their own. They part over an input whose
connected event they have not seen: the injector takes it for a connect, the bridge
drops it.
-/

namespace XoneDarwin

open Machine (Always run)

/-! ## What the daemon sends -/

/-- The texts of the daemon's datagrams. -/
def Datagram.Sent (d : Datagram) : Prop :=
  (∃ s event, d.text = (PadEvent.text s event).take 318 ++ ['\n']) ∨
    d.text = hidUnavailableEvent.take 318 ++ ['\n']

/-- The daemon sends nothing else. -/
theorem run_sent (world : World) {boot : Daemon} (hboot : Boots world boot) (steps : List Step) :
    ∀ d ∈ (run (Daemon.step world) boot steps).pads.datagrams, d.Sent := by
  cases heventUdp : world.eventUdp with
  | false =>
      rw [run_silent world heventUdp hboot steps]
      exact fun _ hd => absurd hd List.not_mem_nil
  | true =>
      have hcall (pads : Pads) (call : Fin maxSlots × PadEvent)
          (hpads : ∀ d ∈ pads.datagrams, d.Sent) :
          ∀ d ∈ (pads.handle world.host true call).datagrams, d.Sent := by
        obtain ⟨s, event⟩ := call
        have htold := handle_told world.host pads s event
        split at htold
        · rw [htold]
          intro d hd
          rcases List.mem_cons.mp hd with rfl | hd
          · exact Or.inl ⟨s, event, rfl⟩
          · exact hpads d hd
        · rwa [htold]
      refine (Machine.run_invariant (fun daemon : Daemon =>
        daemon.table.WF ∧ ∀ d ∈ daemon.pads.datagrams, d.Sent) ?_
        ⟨boots_wf world hboot, ?_⟩ steps).2
      · intro daemon step hboth
        obtain ⟨hwf, hsent⟩ := hboth
        refine ⟨step_wf world hwf step, ?_⟩
        rw [step_pads world hwf, heventUdp]
        exact Machine.run_invariant (fun pads : Pads => ∀ d ∈ pads.datagrams, d.Sent) hcall hsent _
      · intro d hd
        rcases (boots_streams world heventUdp hboot).2 with hnone | hone
        · rw [hnone] at hd
          exact absurd hd List.not_mem_nil
        · rw [hone, List.mem_singleton] at hd
          rw [hd]
          exact Or.inr rfl

/-! ## What the injector makes of it -/

/-- Is the slot in use in the injector after the event? -/
def PadEvent.arrive (active : Bool) : PadEvent → Bool
  | .connect => true
  | .disconnect => false
  | .input _ => true
  | .guide _ => active

namespace Injector

section

variable (host : SdlHost) (injector : Injector) (s : Fin maxSlots) (event : PadEvent)

theorem receive_sent :
    injector.receive host ((event.text s).take 318 ++ ['\n']) =
      injector.step ⟨host, event.text s⟩ := by
  rw [receive, List.take_of_length_le (event.text_sendable s).2.2,
    (event_survives s event).injectorLines]
  rfl

theorem receive_hidUnavailable :
    injector.receive host (hidUnavailableEvent.take 318 ++ ['\n']) = injector := by
  have hlines : lines (hidUnavailableEvent.take 318 ++ ['\n']) = [hidUnavailableEvent] := by
    rw [List.take_of_length_le hidUnavailableEvent_sendable.2.2]
    exact lines_sent hidUnavailableEvent_sendable
  rw [receive, hlines, List.foldl_cons, List.foldl_nil, handleLine, if_neg, if_neg, if_neg]
  · exact Bool.eq_false_iff.mp (hidUnavailableEvent_read "input" (by decide))
  · exact Bool.eq_false_iff.mp (hidUnavailableEvent_read "disconnected" (by decide))
  · exact Bool.eq_false_iff.mp (hidUnavailableEvent_read "connected" (by decide))

/-- Each event has its handler, the guide button has none. -/
theorem step_text : injector.step ⟨host, event.text s⟩ =
    match event with
    | .connect => injector.onConnected host s
    | .disconnect => injector.onDisconnected s
    | .input _ => injector.onInput host (event.text s)
    | .guide _ => injector := by
  have htype {type : String} (hmem : type ∈ Bridge.typeTests) :
      jsonHasType (event.text s) type = decide (type = event.typeName) := by
    rw [Bool.eq_iff_iff, decide_eq_true_eq]
    exact event.text_type s type hmem
  have hslot : jsonGetInt (event.text s) "slot" = some (s.val : Int) :=
    event.text_ints s ("slot", s.val) (by cases event <;> simp [PadEvent.fields, inputFields])
  simp only [step, handleLine, htype (by decide : "connected" ∈ Bridge.typeTests),
    htype (by decide : "disconnected" ∈ Bridge.typeTests),
    htype (by decide : "input" ∈ Bridge.typeTests), hslot]
  cases event <;> rfl

variable {injector}

/-- Where everything succeeds the event of a slot changes that slot as `PadEvent.arrive` says. -/
theorem step_active (hsound : injector.Sound) (sdl2 : Bool) (r : Fin maxSlots) :
    ((injector.step ⟨.working sdl2, event.text s⟩).slots r).active =
      if r = s then event.arrive (injector.slots s).active else (injector.slots r).active := by
  have hensured := injector.ensureSdlReady_working sdl2
  have hconnected := onConnected_ensured (.working sdl2) hensured s
  have hactive := ensured_active (.working sdl2) hsound.desk.fresh s hensured rfl rfl
  have hconnects := ensured_connects (.working sdl2) hsound.desk.fresh s
  rw [hconnected] at hconnects
  have hjoined (after : Injector) (hdesk : after.desk =
      ((injector.ensureSdlReady (.working sdl2)).2.attachSlot (.working sdl2) s).desk) :
      (after.slots r).active = if r = s then true else (injector.slots r).active := by
    have hgrip : (after.slots r).active = (after.desk.grips r).active := rfl
    rw [hgrip, hdesk]
    split
    next hr =>
      rw [hr]
      exact hactive
    next hr =>
      rw [hconnects.other hr]
      rfl
  rw [step_text]
  cases event with
  | connect => exact hjoined _ (congrArg desk hconnected)
  | disconnect =>
      dsimp only
      rw [onDisconnected_slot (Bridge.bridgeSlot?_val s)]
      by_cases hr : r = s
      · subst hr
        rw [if_pos rfl]
        split
        · rfl
        next hidle => exact Bool.eq_false_of_not_eq_true fun hin => hidle ⟨rfl, hin⟩
      · rw [if_neg fun hboth => hr hboth.1, if_neg hr]
  | input g =>
      have hinput : injector.onInput (.working sdl2) (PadEvent.text s (.input g)) =
          injector.step ⟨.working sdl2, inputEvent (UInt8.ofNat s) g⟩ :=
        (injector.step_text (.working sdl2) s (.input g)).symm
      dsimp only
      rw [hinput, step_inputEvent, if_pos hensured]
      exact hjoined _ (desk_applyInput ..)
  | guide pressed =>
      dsimp only [PadEvent.arrive]
      split
      next hr => rw [hr]
      next => rfl

end

end Injector

/-! ## Both of them -/

/-- The bridge and the injector. -/
structure Consumers where
  bridge : Bridge
  injector : Injector

namespace Consumers

/-- Both receive a datagram. -/
def step (host : Host) (sdl : SdlHost) (consumers : Consumers) (d : Datagram) : Consumers :=
  ⟨consumers.bridge.receive host d.text, consumers.injector.receive sdl d.text⟩

/-- The same slots are in use. -/
def Agree (consumers : Consumers) : Prop :=
  ∀ s, (consumers.bridge.slots s).active = (consumers.injector.slots s).active

/-- An input is for a slot in use. -/
def InputInUse (consumers : Consumers) (d : Datagram) : Prop :=
  ∀ s, readNotice? d.line = some (s, .input) → (consumers.bridge.slots s).active = true

end Consumers

/-- Bridge and injector make the same of an event unless it is an input for an idle slot. -/
theorem PadEvent.arrive_eq_iff (active : Bool) (event : PadEvent) :
    event.notice.next active = event.arrive active ↔ (event.notice = .input → active = true) := by
  cases event <;> simp [PadEvent.notice, Notice.next, PadEvent.arrive]

theorem Pad.mirror_active (pad : Pad) (event : PadEvent) :
    (pad.mirror event).active = event.notice.next pad.active := by
  cases event <;> cases hactive : pad.active <;>
    simp [Pad.mirror, PadEvent.notice, Notice.next, hactive]

namespace Consumers

variable {host : Host} {sdl2 : Bool} {consumers : Consumers} {d : Datagram}

theorem step_sound (hsound : consumers.injector.Sound) (hsent : d.Sent) :
    (consumers.step host (.working sdl2) d).injector.Sound := by
  rw [step]
  rcases hsent with ⟨s, event, htext⟩ | htext
  · rw [htext]
    dsimp only
    rw [Injector.receive_sent]
    exact hsound.step _
  · rw [htext]
    dsimp only
    rw [Injector.receive_hidUnavailable]
    exact hsound

/-- Consumers that agree still agree after a datagram exactly if it is no input for a slot that is
not in use. -/
theorem step_agree_iff (hcreate : ∀ hid slot descriptor, host.create hid slot descriptor = true)
    (hsound : consumers.injector.Sound) (hagree : consumers.Agree) (hsent : d.Sent) :
    (consumers.step host (.working sdl2) d).Agree ↔ consumers.InputInUse d := by
  obtain ⟨text, slots⟩ := d
  rcases hsent with ⟨s, event, rfl⟩ | rfl
  · have hread : readNotice? (Datagram.line ⟨(event.text s).take 318 ++ ['\n'], slots⟩) =
        some (s, event.notice) := by
      rw [line_sent (event.text_sendable s), readNotice?_text]
    have hbridge (r : Fin maxSlots) : ((consumers.bridge.receive host
        ((event.text s).take 318 ++ ['\n'])).slots r).active =
          if r = s then event.notice.next (consumers.bridge.slots s).active
          else (consumers.bridge.slots r).active := by
      have hview := congrFun (consumers.bridge.view_receive hcreate s event) r
      refine (congrArg Pad.active hview).trans ?_
      rw [Function.update_apply]
      split
      · exact Pad.mirror_active _ event
      · rfl
    have hafter : (consumers.step host (.working sdl2)
        ⟨(event.text s).take 318 ++ ['\n'], slots⟩).Agree ↔
        event.notice.next (consumers.bridge.slots s).active =
          event.arrive (consumers.bridge.slots s).active := by
      simp only [Agree, step, hbridge, Injector.receive_sent,
        Injector.step_active s event hsound sdl2, ← hagree _]
      constructor
      · intro hall
        have hs := hall s
        rwa [if_pos rfl, if_pos rfl] at hs
      · intro hs r
        split
        · exact hs
        · rfl
    rw [hafter, PadEvent.arrive_eq_iff, InputInUse, hread]
    constructor
    · intro hactive r hr
      obtain ⟨rfl, hnotice⟩ := Prod.mk.inj (Option.some.inj hr)
      exact hactive hnotice
    · intro hin hinput
      exact hin s (by rw [hinput])
  · have hread : readNotice? (Datagram.line ⟨hidUnavailableEvent.take 318 ++ ['\n'], slots⟩) =
        none := by
      rw [line_sent hidUnavailableEvent_sendable]
      decide
    refine iff_of_true ?_ fun s hs => by cases hread.symm.trans hs
    rw [step]
    dsimp only
    rw [Bridge.receive_hidUnavailable, Injector.receive_hidUnavailable]
    exact hagree

end Consumers

/-- Whatever of the daemon's datagrams is received: bridge and injector have the same slots in use
after each of them if and only if no input arrives for a slot that is not in use. -/
theorem consumers_agree_iff (world : World) {boot : Daemon} (hboot : Boots world boot)
    (steps : List Step) {heard : List Datagram}
    (hheard : heard.Sublist (run (Daemon.step world) boot steps).pads.datagrams.reverse)
    {host : Host} (hcreate : ∀ hid slot descriptor, host.create hid slot descriptor = true)
    {bridge : Bridge} (hstart : Bridge.start host = some bridge) (sdl2 : Bool)
    (settings : InjectorSettings) (others : Nat) :
    (∀ before, before <+: heard → (run (Consumers.step host (.working sdl2))
        ⟨bridge, Injector.start settings others⟩ before).Agree) ↔
      Always (Consumers.step host (.working sdl2)) Consumers.InputInUse
        ⟨bridge, Injector.start settings others⟩ heard := by
  have hsent {d : Datagram} (hd : d ∈ heard) : d.Sent :=
    run_sent world hboot steps d (List.mem_reverse.mp (hheard.subset hd))
  apply Machine.forall_prefix_iff_always Consumers.Agree
    fun consumers : Consumers => consumers.injector.Sound ∧ consumers.Agree
  case hgood => exact fun _ hboth => hboth.2
  case hstep =>
    intro consumers d hd hboth hin
    obtain ⟨hsound, hagree⟩ := hboth
    refine ⟨Consumers.step_sound hsound (hsent hd), ?_⟩
    exact (Consumers.step_agree_iff hcreate hsound hagree (hsent hd)).mpr hin
  case hbad =>
    intro consumers d hd hboth hlater
    exact (Consumers.step_agree_iff hcreate hboth.1 hboth.2 (hsent hd)).mp hlater
  case hstart =>
    refine ⟨Injector.start_sound settings others, fun s => ?_⟩
    rw [Bridge.start_slots hstart]
    rfl

/-! ## A lost datagram -/

/-- A controller connects and sends an input; the consumers start in between. -/
def lateDatagrams : List Datagram :=
  (run (Daemon.step (udpWorld plainRom)) udpBoot
    [addedStep, inputStep]).pads.datagrams.reverse.drop 1

theorem consumers_agree_iff_late :
    (∀ before, before <+: lateDatagrams → (run (Consumers.step userHost (.working true))
        ⟨userBridge, Injector.start {} 0⟩ before).Agree) ↔
      Always (Consumers.step userHost (.working true)) Consumers.InputInUse
        ⟨userBridge, Injector.start {} 0⟩ lateDatagrams :=
  consumers_agree_iff (udpWorld plainRom) udpBoot_boots [addedStep, inputStep]
    (List.drop_sublist 1 _) (fun _ _ _ => rfl) rfl true {} 0

/-- The injector has the slot in use, the bridge has not. -/
theorem late_consumers_disagree :
    ¬(run (Consumers.step userHost (.working true)) ⟨userBridge, Injector.start {} 0⟩
      lateDatagrams).Agree := by
  intro hagree
  have hbridge : ((run (Consumers.step userHost (.working true))
      ⟨userBridge, Injector.start {} 0⟩ lateDatagrams).bridge.slots 0).active = false := by
    decide +kernel
  have hinjector : ((run (Consumers.step userHost (.working true))
      ⟨userBridge, Injector.start {} 0⟩ lateDatagrams).injector.slots 0).active = true := by
    decide +kernel
  exact Bool.false_ne_true (hbridge.symm.trans ((hagree 0).trans hinjector))

end XoneDarwin
