import XoneDarwin.ControlCenter.Session

/-!
# The workflow of a session

Select an app, unlock the rights, launch the app, start the daemon. What the window shows of app
and daemon is a machine of its own beside what is true of them, and it may be misled: exit codes
and buttons say nothing of the daemons that run.
-/

namespace XoneDarwin.ControlCenter

open Machine (run)

namespace Session

variable {paths : Paths} {isNumber joins : Char → Bool}

/-! ## Status -/

/-- What the window shows of the processes, beside what is true of them. -/
structure Status where
  selected : Bool
  adminUnlocked : Bool
  hasLaunchedInjectedApp : Bool
  daemonRunning : Bool
  daemonTailTask : Bool
  daemons : Nat
  injectedAppRunning : Bool
  injectedProcess : Option Nat
  launched : Nat
  running : List Nat
  asked : List Nat

/-- The processes that were asked to terminate, the latest first. -/
def asked (calls : List AppCall) : List Nat :=
  calls.filterMap fun call =>
    match call with
    | .terminate process => some process
    | _ => none

def status (session : Session) : Status where
  selected := session.selectedAppURL.isSome
  adminUnlocked := session.adminUnlocked
  hasLaunchedInjectedApp := session.hasLaunchedInjectedApp
  daemonRunning := session.daemonRunning
  daemonTailTask := session.daemonTailTask
  daemons := session.daemons
  injectedAppRunning := session.injectedAppRunning
  injectedProcess := session.injectedProcess
  launched := session.launched
  running := session.running
  asked := asked session.calls

namespace Status

def start : Status where
  selected := false
  adminUnlocked := false
  hasLaunchedInjectedApp := false
  daemonRunning := false
  daemonTailTask := false
  daemons := 0
  injectedAppRunning := false
  injectedProcess := none
  launched := 0
  running := []
  asked := []

def launch (status : Status) : Status :=
  { status with
    launched := status.launched + 1
    running := status.launched :: status.running
    injectedProcess := some status.launched
    injectedAppRunning := true
    hasLaunchedInjectedApp := true }

def stopApp (status : Status) : Status :=
  { status with
    asked := status.injectedProcess.toList ++ status.asked
    injectedProcess := none
    injectedAppRunning := false }

/-- The script of the start button has run. -/
def startDaemon (waited : Waited) (up : Bool) (status : Status) : Status :=
  { status with
    daemonRunning := waited.succeeded || status.daemonRunning
    daemonTailTask := waited.succeeded || status.daemonTailTask
    daemons := status.daemons + up.toNat }

def stopDaemon (ended : Nat) (status : Status) : Status :=
  { status with
    daemonRunning := false
    daemonTailTask := false
    daemons := status.daemons - ended }

def report (process : Nat) (status : Status) : Status :=
  { status with
    running := status.running.filter (· ≠ process)
    injectedAppRunning := false }

/-- The start button of the daemon does something. -/
def canStartDaemon (status : Status) : Bool :=
  status.adminUnlocked && status.hasLaunchedInjectedApp && !status.daemonRunning

/-- Select an app, unlock, launch, start the daemon. -/
def next (status : Status) : Event → Status
  | .handleFileImport (.ok (_ :: _)) => { status with selected := true }
  | .unlockAdminPrivileges waited =>
      if waited.succeeded then { status with adminUnlocked := true } else status
  | .launchInjectedApp true none =>
      if status.selected && !status.injectedAppRunning then status.launch else status
  | .stopInjectedApp => status.stopApp
  | .startDaemon true waited up =>
      if status.canStartDaemon then status.startDaemon waited up else status
  | .stopDaemon _ ended => status.stopDaemon ended
  | .terminated process _ => if process ∈ status.running then status.report process else status
  | .daemonExited => { status with daemons := status.daemons - 1 }
  | _ => status

end Status

theorem status_init : (init paths).status = .start := rfl

@[simp] theorem status_appendAppLog (text : List Char) (session : Session) :
    (appendAppLog text session).status = session.status := rfl

theorem status_unlockAdminPrivileges (waited : Waited) (session : Session) :
    (unlockAdminPrivileges waited session).status =
      session.status.next (.unlockAdminPrivileges waited) := by
  cases waited with
  | threw description => rfl
  | exited code =>
      rw [unlockAdminPrivileges, Status.next, Waited.succeeded]
      by_cases hcode : code = 0
      · rw [if_pos hcode, if_pos (beq_iff_eq.mpr hcode)]
        rfl
      · rw [if_neg hcode, if_neg (by simpa using hcode)]
        rfl

theorem status_launchInjectedApp (isExecutable : Bool) (thrown : Option (List Char))
    (session : Session) :
    (launchInjectedApp paths isExecutable thrown session).status =
      session.status.next (.launchInjectedApp isExecutable thrown) := by
  rw [launchInjectedApp, canLaunchInjectedApp]
  cases hselected : session.selectedAppURL with
  | none =>
      cases isExecutable <;> cases thrown <;> simp only [Status.next, status, hselected] <;> rfl
  | some selectedAppURL =>
      cases hrunning : session.injectedAppRunning with
      | true =>
          cases isExecutable <;> cases thrown <;>
            simp only [Status.next, status, hselected, hrunning] <;> rfl
      | false =>
          cases isExecutable <;> cases thrown <;>
            simp only [Status.next, status, hselected, hrunning] <;> rfl

theorem status_stopInjectedApp (session : Session) :
    (stopInjectedApp session).status = session.status.next .stopInjectedApp := by
  have hasked : asked ((session.injectedProcess.map AppCall.terminate).toList ++ session.calls) =
      session.injectedProcess.toList ++ asked session.calls := by
    cases session.injectedProcess <;> rfl
  rw [Status.next, stopInjectedApp, status_appendAppLog, status, hasked]
  rfl

theorem status_startDaemon (isExecutable : Bool) (waited : Waited) (up : Bool) (session : Session) :
    (startDaemon paths joins isExecutable waited up session).status =
      session.status.next (.startDaemon isExecutable waited up) := by
  have hcan : session.status.canStartDaemon = session.canStartDaemon := rfl
  rw [startDaemon]
  cases hguard : session.canStartDaemon with
  | false =>
      cases isExecutable with
      | false => rfl
      | true => rw [Status.next, hcan, hguard]; rfl
  | true =>
      cases isExecutable with
      | false => rfl
      | true =>
          rw [Status.next, hcan, hguard]
          cases waited with
          | threw description => rfl
          | exited code =>
              by_cases hcode : code = 0
              · simp only [Status.startDaemon, Waited.succeeded, hcode]
                rfl
              · simp only [Status.startDaemon, Waited.succeeded, hcode,
                  beq_eq_false_iff_ne.mpr hcode]
                rfl

theorem status_stopDaemon (waited : Waited) (ended : Nat) (session : Session) :
    (stopDaemon paths joins waited ended session).status =
      session.status.next (.stopDaemon waited ended) := by
  cases waited <;> rfl

theorem status_poll (file : LogFile) (session : Session) :
    (poll isNumber file session).status = session.status := by
  unfold poll
  split
  · cases file <;> rfl
  · rfl

theorem status_appOutput (availableData : List UInt8) (session : Session) :
    (appOutput availableData session).status = session.status := by
  rw [appOutput]
  split
  · rfl
  · split <;> rfl

theorem status_terminated (process : Nat) (code : Int) (session : Session) :
    (terminated process code session).status =
      session.status.next (.terminated process code) := by
  have hrunning : session.status.running = session.running := rfl
  rw [terminated, Status.next, hrunning]
  split <;> rfl

/-- The status of the session goes its own way. -/
theorem status_step (session : Session) (event : Event) :
    (step paths isNumber joins session event).status = session.status.next event := by
  cases event with
  | handleFileImport result => rcases result with description | _ | ⟨first, rest⟩ <;> rfl
  | unlockAdminPrivileges waited => exact status_unlockAdminPrivileges waited session
  | launchInjectedApp isExecutable thrown =>
      exact status_launchInjectedApp isExecutable thrown session
  | stopInjectedApp => exact status_stopInjectedApp session
  | startDaemon isExecutable waited up => exact status_startDaemon isExecutable waited up session
  | stopDaemon waited ended => exact status_stopDaemon waited ended session
  | clearAppLog => rfl
  | clearDaemonLog => rfl
  | poll file => exact status_poll file session
  | appOutput availableData => exact status_appOutput availableData session
  | terminated process code => exact status_terminated process code session
  | daemonExited => rfl

/-! ## App and daemon -/

/-- What makes the window show something else than there is: an app ends that another one has
taken the place of, the start button's exit code is wrong about the daemon, not every daemon ends
with the stop button, or the last one ends by itself. -/
def Event.Misleads (status : Status) : Event → Prop
  | .terminated process _ =>
      process ∈ status.running ∧
        ∃ current ∈ status.running, status.injectedProcess = some current ∧ current ≠ process
  | .startDaemon isExecutable waited up =>
      status.canStartDaemon = true ∧ isExecutable = true ∧ up ≠ waited.succeeded
  | .stopDaemon _ ended => ended < status.daemons
  | .daemonExited => status.daemons = 1
  | _ => False

namespace Status

/-- What an event can do. -/
theorem next_cases {P : Event → Status → Prop} (status : Status)
    (quiet : ∀ event, ¬event.Misleads status → P event status)
    (select : ∀ result, P (.handleFileImport result) { status with selected := true })
    (unlock : ∀ waited, P (.unlockAdminPrivileges waited) { status with adminUnlocked := true })
    (launch : status.selected = true → status.injectedAppRunning = false →
      P (.launchInjectedApp true none) status.launch)
    (stopApp : P .stopInjectedApp status.stopApp)
    (startDaemon : ∀ waited up, status.canStartDaemon = true →
      P (.startDaemon true waited up) (status.startDaemon waited up))
    (stopDaemon : ∀ waited ended, P (.stopDaemon waited ended) (status.stopDaemon ended))
    (report : ∀ process code, process ∈ status.running →
      P (.terminated process code) (status.report process))
    (exit : P .daemonExited { status with daemons := status.daemons - 1 })
    (event : Event) : P event (status.next event) := by
  cases event with
  | handleFileImport result =>
      rcases result with description | _ | ⟨first, rest⟩
      · exact quiet _ id
      · exact quiet _ id
      · exact select _
  | unlockAdminPrivileges waited =>
      rw [next]
      split
      · exact unlock waited
      · exact quiet _ id
  | launchInjectedApp isExecutable thrown =>
      rcases isExecutable with _ | _ <;> rcases thrown with _ | description
      · exact quiet _ id
      · exact quiet _ id
      · rw [next]
        split
        next hcan =>
          rw [Bool.and_eq_true, Bool.not_eq_true'] at hcan
          exact launch hcan.1 hcan.2
        next => exact quiet _ id
      · exact quiet _ id
  | stopInjectedApp => exact stopApp
  | startDaemon isExecutable waited up =>
      cases isExecutable with
      | false => exact quiet _ fun hmisleads => Bool.false_ne_true hmisleads.2.1
      | true =>
          rw [next]
          split
          next hcan => exact startDaemon waited up hcan
          next hcannot => exact quiet _ fun hmisleads => hcannot hmisleads.1
  | stopDaemon waited ended => exact stopDaemon waited ended
  | clearAppLog => exact quiet _ id
  | clearDaemonLog => exact quiet _ id
  | poll file => exact quiet _ id
  | appOutput availableData => exact quiet _ id
  | terminated process code =>
      rw [next]
      split
      next hrunning => exact report process code hrunning
      next hnot => exact quiet _ fun hmisleads => hnot hmisleads.1
  | daemonExited => exact exit

/-- Each step of the workflow is behind the one before. -/
structure Ordered (status : Status) : Prop where
  started : status.daemonRunning = true →
    status.adminUnlocked = true ∧ status.hasLaunchedInjectedApp = true
  launched : status.hasLaunchedInjectedApp = true → status.selected = true
  tailing : status.daemonTailTask = status.daemonRunning

theorem ordered_start : start.Ordered where
  started := fun hrunning => absurd hrunning Bool.false_ne_true
  launched := fun hlaunched => absurd hlaunched Bool.false_ne_true
  tailing := rfl

theorem Ordered.next {status : Status} (hordered : status.Ordered) (event : Event) :
    (status.next event).Ordered := by
  obtain ⟨hstarted, hlaunched, htailing⟩ := hordered
  apply next_cases (P := fun _ after => after.Ordered) status
  case quiet => exact fun _ _ => ⟨hstarted, hlaunched, htailing⟩
  case select => exact fun _ => ⟨hstarted, fun _ => rfl, htailing⟩
  case unlock => exact fun _ => ⟨fun hrunning => ⟨rfl, (hstarted hrunning).2⟩, hlaunched, htailing⟩
  case launch =>
    intro hselected _
    exact ⟨fun hrunning => ⟨(hstarted hrunning).1, rfl⟩, fun _ => hselected, htailing⟩
  case stopApp => exact ⟨hstarted, hlaunched, htailing⟩
  case startDaemon =>
    intro waited up hcan
    rw [canStartDaemon, Bool.and_eq_true, Bool.and_eq_true] at hcan
    exact ⟨fun _ => hcan.1, hlaunched, congrArg (waited.succeeded || ·) htailing⟩
  case stopDaemon =>
    exact fun _ _ => ⟨fun hrunning => absurd hrunning Bool.false_ne_true, hlaunched, rfl⟩
  case report => exact fun _ _ _ => ⟨hstarted, hlaunched, htailing⟩
  case exit => exact ⟨hstarted, hlaunched, htailing⟩

/-- The processes are told apart, and the stop button has one to stop. -/
structure Known (status : Status) : Prop where
  running : ∀ process ∈ status.running, process < status.launched
  current : ∀ process, status.injectedProcess = some process →
    process < status.launched ∧ process ∉ status.asked
  asked : ∀ process ∈ status.asked, process < status.launched
  once : status.asked.Nodup
  stoppable : status.injectedAppRunning = true →
    ∃ process ∈ status.running, status.injectedProcess = some process

theorem known_start : start.Known where
  running := fun _ hprocess => absurd hprocess List.not_mem_nil
  current := fun _ hcurrent => nomatch hcurrent
  asked := fun _ hprocess => absurd hprocess List.not_mem_nil
  once := List.nodup_nil
  stoppable := fun hrunning => absurd hrunning Bool.false_ne_true

theorem Known.launch {status : Status} (hknown : status.Known) : status.launch.Known where
  running := by
    intro process hprocess
    rcases List.mem_cons.mp hprocess with rfl | hbefore
    · exact Nat.lt_succ_self _
    · exact (hknown.running process hbefore).trans (Nat.lt_succ_self _)
  current := by
    intro process hcurrent
    obtain rfl := Option.some.inj hcurrent
    exact ⟨Nat.lt_succ_self _, fun hasked => (hknown.asked _ hasked).false⟩
  asked := fun process hasked => (hknown.asked process hasked).trans (Nat.lt_succ_self _)
  once := hknown.once
  stoppable := fun _ => ⟨_, List.mem_cons_self, rfl⟩

theorem Known.stopApp {status : Status} (hknown : status.Known) : status.stopApp.Known where
  running := hknown.running
  current := fun _ hcurrent => nomatch hcurrent
  asked := by
    intro process hasked
    rcases List.mem_append.mp hasked with hcurrent | hbefore
    · exact (hknown.current process (Option.mem_toList.mp hcurrent)).1
    · exact hknown.asked process hbefore
  once := by
    cases hcurrent : status.injectedProcess with
    | none => simpa [Status.stopApp, hcurrent] using hknown.once
    | some process =>
        have hnew := (hknown.current process hcurrent).2
        simpa [Status.stopApp, hcurrent] using ⟨hnew, hknown.once⟩
  stoppable := fun hrunning => absurd hrunning Bool.false_ne_true

theorem Known.report {status : Status} (hknown : status.Known) (process : Nat) :
    (status.report process).Known where
  running := fun other hother => hknown.running other (List.mem_of_mem_filter hother)
  current := hknown.current
  asked := hknown.asked
  once := hknown.once
  stoppable := fun hrunning => absurd hrunning Bool.false_ne_true

theorem Known.next {status : Status} (hknown : status.Known) (event : Event) :
    (status.next event).Known := by
  apply next_cases (P := fun _ after => after.Known) status
  case quiet => exact fun _ _ => hknown
  case launch => exact fun _ _ => hknown.launch
  case stopApp => exact hknown.stopApp
  case report => exact fun process _ _ => hknown.report process
  all_goals
    intros
    exact ⟨hknown.running, hknown.current, hknown.asked, hknown.once, hknown.stoppable⟩

/-- The window shows an app that can be stopped just if it runs, and a daemon just if one is up. -/
structure Right (status : Status) : Prop where
  app : status.injectedAppRunning = true ↔
    ∃ process ∈ status.running, status.injectedProcess = some process
  daemon : status.daemonRunning = true ↔ 0 < status.daemons

/-- A right window is right after any event but those that mislead it. -/
theorem Right.next_iff {status : Status} (hright : status.Right) (event : Event) :
    (status.next event).Right ↔ ¬event.Misleads status := by
  obtain ⟨happ, hdaemon⟩ := hright
  apply next_cases (P := fun event after => after.Right ↔ ¬event.Misleads status) status
  case quiet => exact fun _ hquiet => iff_of_true ⟨happ, hdaemon⟩ hquiet
  case select => exact fun _ => iff_of_true ⟨happ, hdaemon⟩ id
  case unlock => exact fun _ => iff_of_true ⟨happ, hdaemon⟩ id
  case launch =>
    intro _ _
    exact iff_of_true ⟨iff_of_true rfl ⟨_, List.mem_cons_self, rfl⟩, hdaemon⟩ id
  case stopApp =>
    refine iff_of_true ⟨iff_of_false Bool.false_ne_true ?_, hdaemon⟩ id
    rintro ⟨process, -, hcurrent⟩
    exact nomatch hcurrent
  case startDaemon =>
    intro waited up hcan
    -- the button is only on while the window shows no daemon, so a right window means none is up
    have hidle : status.daemonRunning = false := by
      rw [canStartDaemon, Bool.and_eq_true, Bool.not_eq_true'] at hcan
      exact hcan.2
    have hnone : status.daemons = 0 :=
      Nat.eq_zero_of_not_pos fun hup => Bool.false_ne_true (hidle.symm.trans (hdaemon.mpr hup))
    have hcount : 0 < status.daemons + up.toNat ↔ up = true := by
      rw [hnone]
      cases up <;> decide
    have hflag : (waited.succeeded || status.daemonRunning) = true ↔ waited.succeeded = true := by
      rw [hidle, Bool.or_false]
    have hafter : (status.startDaemon waited up).Right ↔ up = waited.succeeded := by
      rw [Bool.eq_iff_iff, ← hcount, ← hflag]
      exact ⟨fun hright => hright.daemon.symm, fun hsame => ⟨happ, hsame.symm⟩⟩
    rw [hafter, Event.Misleads, and_iff_right hcan, and_iff_right rfl, not_ne_iff]
  case stopDaemon =>
    intro waited ended
    rw [Event.Misleads, Nat.not_lt]
    constructor
    · intro hafter
      have hnone : ¬0 < status.daemons - ended :=
        fun hup => Bool.false_ne_true (hafter.daemon.mpr hup)
      exact Nat.sub_eq_zero_iff_le.mp (Nat.eq_zero_of_not_pos hnone)
    · intro hall
      refine ⟨happ, iff_of_false Bool.false_ne_true ?_⟩
      exact (Nat.sub_eq_zero_of_le hall).not_gt
  case report =>
    intro process code hrunning
    constructor
    · rintro hafter ⟨-, current, hmem, hcurrent, hne⟩
      have hshown := hafter.app.mpr
        ⟨current, List.mem_filter.mpr ⟨hmem, by simpa using hne⟩, hcurrent⟩
      exact absurd hshown Bool.false_ne_true
    · intro hnot
      refine ⟨iff_of_false Bool.false_ne_true ?_, hdaemon⟩
      rintro ⟨current, hmem, hcurrent⟩
      obtain ⟨hbefore, hne⟩ := List.mem_filter.mp hmem
      exact hnot ⟨hrunning, current, hbefore, hcurrent, by simpa using hne⟩
  case exit =>
    have hone : (0 < status.daemons ↔ 0 < status.daemons - 1) ↔ ¬status.daemons = 1 := by
      omega
    rw [Event.Misleads, ← hone]
    exact ⟨fun hafter => hdaemon.symm.trans hafter.daemon,
      fun hsame => ⟨happ, hdaemon.trans hsame⟩⟩

/-- Every app that runs is the one the stop button stops, or was asked to end. -/
def Reachable (status : Status) : Prop :=
  ∀ process ∈ status.running, status.injectedProcess = some process ∨ process ∈ status.asked

/-- No app gets out of reach while the window is right. -/
theorem Reachable.next {status : Status} (hreachable : status.Reachable) (hright : status.Right)
    (event : Event) : (status.next event).Reachable := by
  apply next_cases (P := fun _ after => after.Reachable) status
  case quiet => exact fun _ _ => hreachable
  case launch =>
    intro _ hidle process hprocess
    rcases List.mem_cons.mp hprocess with rfl | hbefore
    · exact Or.inl rfl
    · refine Or.inr ((hreachable process hbefore).resolve_left fun hcurrent => ?_)
      -- the app whose place is taken still runs, but then the window would show it
      exact absurd (hright.app.mpr ⟨process, hbefore, hcurrent⟩) (by simp [hidle])
  case stopApp =>
    intro process hprocess
    -- the one the button stops is forgotten, but it was asked to end
    refine Or.inr (List.mem_append.mpr ((hreachable process hprocess).imp_left fun hcurrent => ?_))
    exact Option.mem_toList.mpr hcurrent
  case report =>
    exact fun _ _ _ process hprocess => hreachable process (List.mem_of_mem_filter hprocess)
  all_goals
    intros
    exact hreachable

end Status

/-- In every session the stop button of the app is on only if an app runs that it stops, no process
is asked to end twice, and the window is right about app and daemon all the time just if it is not
misled: no app ends that another one has taken the place of, the start script brings up a daemon
just if it succeeds, no daemon outlives a stop and the last one does not end by itself. As long as
it is right, no app runs on that was not asked to end. -/
theorem window_right_iff (events : List Event) :
    let session := run (step paths isNumber joins) (init paths)
    (session events).status.Known ∧
      ((∀ before, before <+: events → (session before).status.Right) ↔
        Machine.Always (step paths isNumber joins) (fun session event =>
          ¬event.Misleads session.status) (init paths) events) ∧
      ((∀ before, before <+: events → (session before).status.Right) →
        (session events).status.Reachable) := by
  intro session
  refine ⟨?_, ?_, fun hright => ?_⟩
  · apply Machine.run_invariant fun session : Session => session.status.Known
    · intro state event hknown
      exact (status_step state event).symm ▸ hknown.next event
    · exact Status.known_start
  · apply Machine.forall_prefix_iff_always (fun session : Session => session.status.Right)
      fun session => session.status.Right
    · exact fun _ hright => hright
    · intro state event _ hright hquiet
      exact (status_step state event).symm ▸ (hright.next_iff event).mpr hquiet
    · intro state event _ hright hafter
      exact (hright.next_iff event).mp ((status_step state event).symm ▸ hafter)
    · exact ⟨iff_of_false Bool.false_ne_true (by simp [status_init, Status.start]),
        iff_of_false Bool.false_ne_true (Nat.lt_irrefl 0)⟩
  · apply Machine.run_invariant_of_always (Q := fun session _ => session.status.Right)
      fun session : Session => session.status.Reachable
    · intro state event hreachable hstate
      exact (status_step state event).symm ▸ hreachable.next hstate event
    · exact fun _ hprocess => absurd hprocess List.not_mem_nil
    · intro before event after hsplit
      exact hright before (hsplit ▸ List.prefix_append _ _)

/-- An app that was asked to end and ends late hides the one launched after it. -/
example :
    let status := run Status.next .start [.handleFileImport (.ok [⟨[], []⟩]),
      .launchInjectedApp true none, .stopInjectedApp, .launchInjectedApp true none, .terminated 0 15]
    status.injectedAppRunning = false ∧ status.injectedProcess = some 1 ∧ status.running = [1] := by
  decide

end Session

end XoneDarwin.ControlCenter
