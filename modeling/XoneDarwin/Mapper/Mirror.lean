import XoneDarwin.Bridge.Told
import XoneDarwin.Mapper.Objects

/-!
# What the mapper keeps of the daemon's controllers

A mapper that gets the daemon's datagrams, with keys pressed in between, keeps in its `states`
what every controller reported last. What `draw` puts on the screen is left out: it paints the
slots 4 to 7 over the slots 0 to 3.
-/

namespace XoneDarwin.Mapper

open Machine (callsOf run)

/-! ## Controls -/

/-- An `InputState` without its time. -/
structure Controls where
  connected : Bool := false
  buttons : Int := 0
  lt : Int := 0
  rt : Int := 0
  lx : Int := 0
  ly : Int := 0
  rx : Int := 0
  ry : Int := 0
  deriving DecidableEq

/-- What is kept of a controller that has reported this. -/
def Controls.ofSince (since : Since) : Controls :=
  match since.last with
  | none => { connected := since.active }
  | some g =>
      { connected := since.active
        buttons := g.buttons.toNat
        lt := normalizeTrigger g.triggerL.toNat
        rt := normalizeTrigger g.triggerR.toNat
        lx := g.stickLx.toInt
        ly := g.stickLy.toInt
        rx := g.stickRx.toInt
        ry := g.stickRy.toInt }

/-- What `apply_event` makes of the controls. -/
def nextControls (controls : Fin 8 → Controls) : Event → Fin 8 → Controls
  | .connected slot => Function.update controls slot { controls slot with connected := true }
  | .disconnected slot => Function.update controls slot {}
  | .input slot fields =>
      let prev := controls slot
      Function.update controls slot
        { connected := true
          buttons := fields.buttons.getD prev.buttons
          lt := normalizeTrigger (fields.lt.getD prev.lt)
          rt := normalizeTrigger (fields.rt.getD prev.rt)
          lx := fields.lx.getD prev.lx
          ly := fields.ly.getD prev.ly
          rx := fields.rx.getD prev.rx
          ry := fields.ry.getD prev.ry }

def hearControls (controls : Fin 8 → Controls) (message : Message) : Fin 8 → Controls :=
  (messageEvent message).elim controls (nextControls controls)

section

variable {Time : Type}

def InputState.controls (s : InputState Time) : Controls where
  connected := s.connected
  buttons := s.buttons
  lt := s.lt
  rt := s.rt
  lx := s.lx
  ly := s.ly
  rx := s.rx
  ry := s.ry

def App.controls (app : App Time) (slot : Fin 8) : Controls :=
  (app.states slot).controls

theorem controls_update (states : Fin 8 → InputState Time) (slot : Fin 8) (s : InputState Time) :
    (fun i => (Function.update states slot s i).controls) =
      Function.update (fun i => (states i).controls) slot s.controls := by
  funext i
  by_cases hi : i = slot
  · rw [hi, Function.update_self, Function.update_self]
  · rw [Function.update_of_ne hi, Function.update_of_ne hi]

variable (clock : Clock Time)

theorem record_rest (app : App Time) (step : WizardStep) (observed status : String) (now : Time) :
    (app.record step observed status now).states = app.states ∧
      (app.record step observed status now).running = app.running := by
  rw [App.record]
  dsimp only
  split <;> exact ⟨rfl, rfl⟩

theorem capture_rest (app : App Time) (step : WizardStep) (prev cur : InputState Time)
    (now : Time) : (app.capture step prev cur now).states = app.states ∧
      (app.capture step prev cur now).running = app.running := by
  rw [App.capture]
  split
  · exact ⟨rfl, rfl⟩
  · exact record_rest _ step _ _ now

/-- An event changes the controls of its slot, and the program goes on. -/
theorem applyEvent_controls {app : App Time} (hw : app.wizard.WellFormed) (now judged : Time)
    (event : Event) :
    ∃ after, app.applyEvent clock now judged event = some after ∧ after.wizard.WellFormed ∧
      after.running = app.running ∧ after.controls = nextControls app.controls event := by
  obtain ⟨after, hafter, hwell⟩ := applyEvent_wellFormed clock hw now judged event
  refine ⟨after, hafter, hwell, ?_⟩
  cases event with
  | connected slot =>
      cases hafter
      exact ⟨rfl, controls_update app.states slot _⟩
  | disconnected slot =>
      cases hafter
      exact ⟨rfl, controls_update app.states slot _⟩
  | input slot fields =>
      let cur := (app.states slot).assign fields now
      let updated := { app with states := Function.update app.states slot cur }
      have hcontrols : updated.controls = nextControls app.controls (.input slot fields) :=
        controls_update app.states slot cur
      have hupdated : updated.wizard.WellFormed := hw
      rcases maybeCaptureWizard_cases clock hupdated slot (app.states slot) cur judged with
        ⟨-, hsame⟩ | ⟨step, -, -, hcapture⟩
      · obtain rfl : updated = after := Option.some.inj (hsame.symm.trans hafter)
        exact ⟨rfl, hcontrols⟩
      · obtain rfl := Option.some.inj (hcapture.symm.trans hafter)
        obtain ⟨hstates, hrunning⟩ := capture_rest updated step (app.states slot) cur judged
        refine ⟨hrunning, ?_⟩
        rw [← hcontrols]
        funext i
        rw [App.controls, hstates, App.controls]

/-! ## Keys -/

/-- The keys that end the program: `q`, and `s` where the log cannot be written. -/
def quits (ch : Nat) (saves : Bool) : Bool :=
  ch = 'q'.toNat || ch = 'Q'.toNat || ((ch = 's'.toNat || ch = 'S'.toNat) && !saves)

theorem skipWizardStep_rest {app : App Time} (hw : app.wizard.WellFormed) (now : Time) :
    ∃ after, app.skipWizardStep now = some after ∧ after.states = app.states ∧
      after.running = app.running := by
  rw [App.skipWizardStep]
  split
  · exact ⟨_, rfl, rfl, rfl⟩
  next hactive =>
    obtain ⟨step, hstep⟩ := exists_step hw (Bool.eq_true_of_not_eq_false hactive)
    rw [hstep]
    split
    · exact ⟨_, rfl, rfl, rfl⟩
    · exact ⟨_, rfl, record_rest app step _ _ now⟩

theorem handleKeys_rest {app : App Time} (hw : app.wizard.WellFormed) (ch : Nat) (now : Time)
    (saves : Bool) :
    let next := (app.handleKeys clock ch now saves).getD { app with running := false }
    next.states = app.states ∧ next.running = (app.running && !quits ch saves) := by
  have hgoes (hquits : quits ch saves = false) {after : App Time}
      (hstates : after.states = app.states) (hrunning : after.running = app.running) :
      after.states = app.states ∧ after.running = (app.running && !quits ch saves) := by
    rw [hquits, hrunning, Bool.not_false, Bool.and_true]
    exact ⟨hstates, rfl⟩
  have hends (hquits : quits ch saves = true) {after : App Time}
      (hstates : after.states = app.states) (hrunning : after.running = false) :
      after.states = app.states ∧ after.running = (app.running && !quits ch saves) := by
    rw [hquits, hrunning, Bool.not_true, Bool.and_false]
    exact ⟨hstates, rfl⟩
  intro next
  have hnext : next = (app.handleKeys clock ch now saves).getD { app with running := false } := rfl
  clear_value next
  rw [App.handleKeys] at hnext
  split_ifs at hnext with hquit hstart hskip hsave hsaves
  · rw [hnext]
    refine hends ?_ rfl rfl
    rcases hquit with rfl | rfl <;> rfl
  · rw [hnext]
    refine hgoes ?_ rfl rfl
    rw [startsWizard, Bool.or_eq_true, decide_eq_true_eq, decide_eq_true_eq] at hstart
    rcases hstart with rfl | rfl <;> rfl
  · obtain ⟨after, hafter, hstates, hrunning⟩ := skipWizardStep_rest hw now
    rw [hnext, hafter]
    refine hgoes ?_ hstates hrunning
    rcases hskip with rfl | rfl <;> rfl
  · rw [hnext]
    refine hgoes ?_ rfl rfl
    rw [hsaves]
    rcases hsave with rfl | rfl <;> rfl
  · rw [hnext]
    refine hends ?_ rfl rfl
    rw [Bool.eq_false_of_not_eq_true hsaves]
    rcases hsave with rfl | rfl <;> rfl
  · have hquits : quits ch saves = false := by
      rw [not_or] at hquit hsave
      simp only [quits, decide_eq_false hquit.1, decide_eq_false hquit.2,
        decide_eq_false hsave.1, decide_eq_false hsave.2, Bool.or_self, Bool.false_and]
    split at hnext
    · rw [hnext]
      exact hgoes hquits rfl rfl
    · rw [hnext]
      exact hgoes hquits rfl rfl

/-! ## Turns -/

/-- What `run` takes up next: a datagram or a key. -/
inductive Turn (Time : Type)
  | datagram (data : List UInt8) (readings : Nat → Readings Time)
  | key (ch : Nat) (now : Time) (saves : Bool)

def Turn.data? : Turn Time → Option (List UInt8)
  | .datagram data _ => some data
  | .key _ _ _ => none

/-- The turn ends the program. -/
def Turn.quits : Turn Time → Bool
  | .datagram _ _ => false
  | .key ch _ saves => Mapper.quits ch saves

/-- A turn of `run`. An exception ends the program. -/
def App.turn (python : Python) (app : App Time) : Turn Time → App Time
  | .datagram data readings =>
      if app.running then
        match app.pollUdp python clock readings data with
        | .ok after => after
        | .error _ => { app with running := false }
      else app
  | .key ch now saves => app.step clock (.key ch now saves)

section

variable {clock} {python : Python} {app : App Time}

theorem turn_stopped (hstopped : app.running = false) (turn : Turn Time) :
    app.turn clock python turn = app := by
  cases turn with
  | datagram data readings => exact if_neg (by simp [hstopped])
  | key ch now saves => exact if_neg (by simp [hstopped])

theorem turn_message (hloads : python.LoadsFlat) (hw : app.wizard.WellFormed)
    (hrunning : app.running = true) (message : Message) (readings : Nat → Readings Time) :
    let after := app.turn clock python (.datagram (lineBytes (messageText message)) readings)
    after.wizard.WellFormed ∧ after.running = true ∧
      after.controls = hearControls app.controls message := by
  simp only [App.turn, if_pos hrunning, pollUdp_message clock hloads, hearControls]
  cases messageEvent message with
  | none => exact ⟨hw, hrunning, rfl⟩
  | some event =>
      obtain ⟨after, hafter, hwell, hstill, hcontrols⟩ :=
        applyEvent_controls clock hw (readings 0).now (readings 0).judged event
      simp only [Option.elim_some, hafter]
      exact ⟨hwell, hstill.trans hrunning, hcontrols⟩

theorem turn_key (hw : app.wizard.WellFormed) (hrunning : app.running = true) (ch : Nat)
    (now : Time) (saves : Bool) :
    let after := app.turn clock python (.key ch now saves)
    after.wizard.WellFormed ∧ after.running = !quits ch saves ∧
      after.controls = app.controls := by
  obtain ⟨hstates, hquits⟩ := handleKeys_rest clock hw ch now saves
  refine ⟨step_wellFormed clock hw (.key ch now saves), ?_, ?_⟩
  · simp only [App.turn, App.step, if_pos hrunning]
    rw [hquits, hrunning, Bool.true_and]
  · funext slot
    simp only [App.turn, App.step, if_pos hrunning, App.controls]
    rw [hstates]

theorem run_stopped (hstopped : app.running = false) (turns : List (Turn Time)) :
    run (App.turn clock python) app turns = app :=
  Machine.run_invariant (· = app)
    (fun after turn hafter => by rw [hafter]; exact turn_stopped hstopped turn) rfl turns

/-- Of the daemon's messages and the keys in between, only a key ends the program. While it runs,
its controls are what the messages make of them. -/
theorem run_messages (hloads : python.LoadsFlat) {messages : List Message}
    {turns : List (Turn Time)} (hw : app.wizard.WellFormed) (hrunning : app.running = true)
    (hdata : turns.filterMap Turn.data? = messages.map fun m => lineBytes (messageText m)) :
    let after := run (App.turn clock python) app turns
    (after.running = true ↔ ∀ turn ∈ turns, turn.quits = false) ∧
      (after.running = true → after.controls = messages.foldl hearControls app.controls) := by
  induction turns generalizing app messages with
  | nil =>
      obtain rfl : messages = [] := List.map_eq_nil_iff.mp hdata.symm
      exact ⟨iff_of_true hrunning (List.forall_mem_nil _), fun _ => rfl⟩
  | cons turn turns ih =>
      cases turn with
      | datagram data readings =>
          cases messages with
          | nil => cases hdata
          | cons message messages =>
              obtain ⟨rfl, hrest⟩ := List.cons.inj hdata
              obtain ⟨hwell, hstill, hcontrols⟩ :=
                turn_message hloads hw hrunning message readings
              obtain ⟨hends, hshows⟩ := ih hwell hstill hrest
              refine ⟨hends.trans ?_, fun hafter => ?_⟩
              · rw [List.forall_mem_cons]
                exact (and_iff_right rfl).symm
              · rw [Machine.run_cons, hshows hafter, hcontrols]
                rfl
      | key ch now saves =>
          obtain ⟨hwell, hquits, hcontrols⟩ :=
            turn_key hw hrunning ch now saves
          cases hkey : quits ch saves with
          | true =>
              rw [hkey, Bool.not_true] at hquits
              rw [Machine.run_cons, run_stopped hquits]
              refine ⟨iff_of_false ?_ fun hall => ?_, fun hafter => ?_⟩
              · rw [hquits]
                exact Bool.false_ne_true
              · have hfirst : quits ch saves = false := hall _ List.mem_cons_self
                rw [hkey] at hfirst
                cases hfirst
              · rw [hquits] at hafter
                cases hafter
          | false =>
              rw [hkey, Bool.not_false] at hquits
              obtain ⟨hends, hshows⟩ := ih hwell hquits hdata
              refine ⟨hends.trans ?_, fun hafter => ?_⟩
              · rw [List.forall_mem_cons]
                exact (and_iff_right hkey).symm
              · rw [Machine.run_cons, hshows hafter, hcontrols]

end

end

/-! ## Daemon and mapper -/

/-- The messages in the datagrams, and what they make of the controls. -/
structure Told (pads : Pads) (since : Fin maxSlots → Since) (messages : List Message) : Prop where
  texts : pads.datagrams.reverse.map Datagram.text = messages.map messageText
  active : ∀ s, (since s).active = (pads.view s).active
  idle : ∀ s, (since s).active = false → since s = {}
  controls : messages.foldl hearControls (fun _ => {}) = fun s => Controls.ofSince (since s)

/-- A message changes the controls as its event changes the reports. -/
theorem hearControls_told {since : Fin maxSlots → Since} {pad : Pad} {s : Fin maxSlots}
    (hactive : (since s).active = pad.active)
    (hidle : (since s).active = false → since s = {}) {event : PadEvent}
    (htells : pad.tells event = true) :
    hearControls (fun r => Controls.ofSince (since r)) (some (s, event)) =
      fun r => Controls.ofSince (sinceAfter since [(s, event)] r) := by
  have hupdate : (fun r => Controls.ofSince (sinceAfter since [(s, event)] r)) =
      Function.update (fun r => Controls.ofSince (since r)) s
        (Controls.ofSince ((since s).next event)) := by
    funext r
    rw [sinceAfter_one, Function.update_apply]
    split <;> rfl
  rw [hupdate]
  cases event with
  | connect =>
      have hfresh : (since s).active = false := by
        rw [hactive]
        exact Bool.not_eq_true' _ ▸ htells
      have hnext : (since s).next .connect = { active := true } := by
        rw [Since.next, hfresh, if_neg Bool.false_ne_true]
      -- a connect leaves the other controls alone, and a slot not in use has them all at rest
      have hcontrols : Controls.ofSince (since s) = {} := by
        rw [hidle hfresh]
        rfl
      have hheard : hearControls (fun r => Controls.ofSince (since r)) (some (s, .connect)) =
          Function.update (fun r => Controls.ofSince (since r)) s
            { Controls.ofSince (since s) with connected := true } := rfl
      rw [hheard, hnext, hcontrols]
      rfl
  | disconnect =>
      have hin : (since s).active = true := hactive.trans htells
      have hnext : (since s).next .disconnect = {} := by
        rw [Since.next, hin, if_pos rfl]
      rw [hnext]
      rfl
  | input g =>
      have hin : (since s).active = true := hactive.trans htells
      have hnext : (since s).next (.input g) =
          { active := true, first := (since s).first.or (some g), last := some g } := by
        rw [Since.next, if_pos hin, hin]
      rw [hnext]
      rfl
  -- the guide button is told, but it is none of the controls
  | guide pressed => exact (Function.update_eq_self s fun r => Controls.ofSince (since r)).symm

theorem Since.next_idle {since : Since} (hidle : since.active = false → since = {})
    (event : PadEvent) (hafter : (since.next event).active = false) : since.next event = {} := by
  cases event with
  | connect =>
      simp only [Since.next] at hafter ⊢
      split at hafter
      next hin => exact absurd hafter (by simp [hin])
      next => cases hafter
  | disconnect =>
      simp only [Since.next] at hafter ⊢
      split
      · rfl
      next hout => exact hidle (Bool.eq_false_of_not_eq_true hout)
  | input g =>
      simp only [Since.next] at hafter ⊢
      split at hafter
      next hin => exact absurd hafter (by simp [hin])
      next hout => rw [if_neg hout]; exact hidle hafter
  | guide pressed => exact hidle hafter

theorem Told.handle {host : Host} {pads : Pads} {since : Fin maxSlots → Since}
    {messages : List Message} (htold : Told pads since messages)
    (call : Fin maxSlots × PadEvent) :
    ∃ messages, Told (pads.handle host true call) (sinceAfter since [call]) messages := by
  obtain ⟨s, event⟩ := call
  have hactive := sinceAfter_active htold.active host true s event
  have hidle (r : Fin maxSlots) (hr : (sinceAfter since [(s, event)] r).active = false) :
      sinceAfter since [(s, event)] r = {} := by
    rw [sinceAfter_one] at hr ⊢
    split at hr
    next hsame => rw [if_pos hsame]; exact Since.next_idle (htold.idle s) event hr
    next hother => rw [if_neg hother]; exact htold.idle r hr
  have hsent := handle_told host pads s event
  cases htells : (pads.view s).tells event with
  | true =>
      rw [htells, if_pos rfl] at hsent
      refine ⟨messages ++ [some (s, event)], ?_, hactive, hidle, ?_⟩
      · rw [hsent, List.reverse_cons, List.map_append, List.map_append, htold.texts]
        rfl
      · rw [List.foldl_append, htold.controls]
        exact hearControls_told (htold.active s) (htold.idle s) htells
  | false =>
      rw [htells, if_neg Bool.false_ne_true] at hsent
      refine ⟨messages, hsent.symm ▸ htold.texts, hactive, hidle, ?_⟩
      rw [htold.controls]
      funext r
      rw [sinceAfter_one]
      split
      next hr => rw [(since s).next_untold (htold.active s) htells, hr]
      next => rfl

theorem Told.handles {host : Host} {pads : Pads} {since : Fin maxSlots → Since}
    {messages : List Message} (htold : Told pads since messages)
    (calls : List (Fin maxSlots × PadEvent)) :
    ∃ messages, Told (run (Pads.handle host true) pads calls) (sinceAfter since calls)
      messages := by
  induction calls using List.reverseRecOn with
  | nil => exact ⟨messages, htold⟩
  | append_singleton calls last ih =>
      obtain ⟨before, hbefore⟩ := ih
      rw [Machine.run_concat, sinceAfter_append]
      exact hbefore.handle last

section

variable (world : World) (heventUdp : world.eventUdp = true) {boot : Daemon}
variable (hboot : Boots world boot)

include heventUdp hboot

theorem boots_told : ∃ messages, Told boot.pads (fun _ => {}) messages := by
  have hactive (s : Fin maxSlots) : ({} : Since).active = (boot.pads.view s).active := by
    rw [Pads.view, boots_slots world hboot]
    rfl
  rcases (boots_streams world heventUdp hboot).2 with hnone | hone
  · refine ⟨[], ?_, hactive, fun _ _ => rfl, rfl⟩
    rw [hnone]
    rfl
  · refine ⟨[none], ?_, hactive, fun _ _ => rfl, rfl⟩
    rw [hone]
    rfl

theorem run_told (steps : List Step) :
    ∃ messages, Told (run (Daemon.step world) boot steps).pads
      (sinceAfter (fun _ => {}) (padTrace world boot steps)) messages := by
  induction steps using List.reverseRecOn with
  | nil => exact boots_told world heventUdp hboot
  | append_singleton steps last ih =>
      obtain ⟨messages, htold⟩ := ih
      have hwf : (run (Daemon.step world) boot steps).table.WF :=
        reachable_wf world ⟨boot, steps, hboot, rfl⟩
      rw [Machine.run_concat, padTrace, Machine.emitted_concat, sinceAfter_append,
        step_pads world hwf, heventUdp]
      exact htold.handles _

end

/-- Of the daemon's datagrams and any keys in between, only a key ends the mapper. While it runs,
its `states` say of each slot whether it is in use, and what its controller reported last since
it was connected. -/
theorem mapper_shows_controllers (world : World) (heventUdp : world.eventUdp = true) {boot : Daemon}
    (hboot : Boots world boot) (steps : List Step) {Time : Type} (clock : Clock Time)
    {python : Python} (hloads : python.LoadsFlat) (logPath : String) (turns : List (Turn Time))
    (hdata : turns.filterMap Turn.data? =
      (run (Daemon.step world) boot steps).pads.datagrams.reverse.map fun d => lineBytes d.text) :
    let daemon := run (Daemon.step world) boot steps
    let mapper := run (App.turn clock python) (App.init clock logPath) turns
    (mapper.running = true ↔ ∀ turn ∈ turns, turn.quits = false) ∧
      (mapper.running = true → ∀ s,
        (mapper.controls s).connected = (daemon.pads.slots s).active ∧
        mapper.controls s =
          Controls.ofSince (run Since.next {} (callsOf s (padTrace world boot steps)))) := by
  intro daemon mapper
  obtain ⟨messages, htold⟩ := run_told world heventUdp hboot steps
  have hmessages : turns.filterMap Turn.data? =
      messages.map fun m => lineBytes (messageText m) := by
    have htexts := congrArg (List.map lineBytes) htold.texts
    rw [List.map_map, List.map_map] at htexts
    exact hdata.trans htexts
  have hwell : (App.init clock logPath).wizard.WellFormed :=
    wellFormed_init clock false ⟨0, firstSlot_lt⟩
  have hstarted : (App.init clock logPath).running = true := rfl
  obtain ⟨hends, hshows⟩ := run_messages hloads hwell hstarted hmessages
  refine ⟨hends, fun hrunning s => ?_⟩
  have hcontrols : mapper.controls s =
      Controls.ofSince (sinceAfter (fun _ => {}) (padTrace world boot steps) s) :=
    congrFun ((hshows hrunning).trans htold.controls) s
  refine ⟨?_, hcontrols⟩
  have hconnected (since : Since) : (Controls.ofSince since).connected = since.active := by
    rw [Controls.ofSince]
    split <;> rfl
  rw [hcontrols, hconnected]
  exact htold.active s

/-- A wizard is started, and then the datagrams come of a controller that was just added. -/
def wizardTurns (daemon : Daemon) : List (Turn Nat) :=
  .key 0x77 0 true :: daemon.pads.datagrams.reverse.map fun d =>
    .datagram (lineBytes d.text) fun _ => ⟨0, 0⟩

theorem mapper_shows_controllers_wizard :
    let daemon := run (Daemon.step (udpWorld plainRom)) udpBoot [addedStep, inputStep]
    let mapper := run (App.turn millis flatPython) (App.init millis "") (wizardTurns daemon)
    (mapper.running = true ↔ ∀ turn ∈ wizardTurns daemon, turn.quits = false) ∧
      (mapper.running = true → ∀ s,
        (mapper.controls s).connected = (daemon.pads.slots s).active ∧
        mapper.controls s = Controls.ofSince (run Since.next {} (callsOf s
          (padTrace (udpWorld plainRom) udpBoot [addedStep, inputStep])))) :=
  mapper_shows_controllers (udpWorld plainRom) rfl udpBoot_boots [addedStep, inputStep] millis
    flatPython_loadsFlat "" _ (by
      rw [wizardTurns, List.filterMap_cons_none rfl, List.filterMap_map]
      exact congrFun List.filterMap_eq_map _)

end XoneDarwin.Mapper
