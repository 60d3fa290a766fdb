import XoneDarwin.ControlCenter.Workflow
import XoneDarwin.Machine.Traces

/-!
# What the window shows of the log

The count of the controllers and the two panes, against what the polls read and what was
appended. Both panes are cut to their last lines.
-/

namespace XoneDarwin.ControlCenter

open Lines Utf8
open Machine (run lastOf)

namespace Session

variable {paths : Paths} {isNumber joins : Char → Bool}

/-! ## The controllers -/

/-- The slot a line is about, and whether it says that it is connected. -/
def activity (isNumber : Char → Bool) (line : List Char) : Option (Int × Bool) :=
  if contains line "\"type\":\"connected\"" then (extractSlot isNumber line).map (·, true)
  else if contains line "\"type\":\"disconnected\"" then
    (extractSlot isNumber line).map (·, false)
  else if contains line "Controller CONNECTED" then
    (extractTrailingNumber isNumber line).map (·, true)
  else if contains line "Controller DISCONNECTED" then
    (extractTrailingNumber isNumber line).map (·, false)
  else none

/-- What a line says of a slot. -/
def reported (isNumber : Char → Bool) (slot : Int) (line : List Char) : Option Bool :=
  (activity isNumber line).bind fun said => if said.1 = slot then some said.2 else none

/-- A slot is counted just if the last line about it says that it is connected. -/
def Follows (isNumber : Char → Bool) (connectedSlots : Finset Int) (heard : List (List Char)) :
    Prop :=
  ∀ slot, slot ∈ connectedSlots ↔ lastOf (reported isNumber slot) heard = some true

theorem parseControllerActivity_connectedSlots (app : ViewModel) (line : List Char) :
    (parseControllerActivity isNumber app line).connectedSlots =
      (activity isNumber line).elim app.connectedSlots fun said =>
        if said.2 then insert said.1 app.connectedSlots else app.connectedSlots.erase said.1 := by
  rw [parseControllerActivity, activity]
  dsimp only
  split_ifs
  · cases extractSlot isNumber line <;> rfl
  · cases extractSlot isNumber line <;> rfl
  · cases extractTrailingNumber isNumber line <;> rfl
  · cases extractTrailingNumber isNumber line <;> rfl
  · rfl

theorem Follows.line {app : ViewModel} {heard : List (List Char)}
    (hfollows : Follows isNumber app.connectedSlots heard) (line : List Char) :
    Follows isNumber (parseControllerActivity isNumber app line).connectedSlots
      (heard ++ [line]) := by
  intro slot
  rw [parseControllerActivity_connectedSlots, Machine.lastOf_concat, reported]
  cases hactivity : activity isNumber line with
  | none => exact hfollows slot
  | some said =>
      obtain ⟨other, connected⟩ := said
      rw [Option.elim_some, Option.bind_some]
      by_cases hslot : other = slot
      · cases connected <;> simp [hslot]
      · have hkept := hfollows slot
        cases connected <;> simp [hslot, Ne.symm hslot, hkept]

theorem Follows.lines {app : ViewModel} {heard : List (List Char)}
    (hfollows : Follows isNumber app.connectedSlots heard) (text : List (List Char)) :
    Follows isNumber (text.foldl (parseControllerActivity isNumber) app).connectedSlots
      (heard ++ text) := by
  induction text generalizing app heard with
  | nil => simpa using hfollows
  | cons line rest ih => simpa using ih (hfollows.line line)

/-- What is shown of the daemon's log, beside what there was to show. -/
structure Listening where
  log : ViewModel
  tailing : Bool
  heard : List (List Char)
  daemonLogged : List (List Char)

def listening (session : Session) : Listening where
  log := session.log
  tailing := session.daemonTailTask
  heard := session.heard
  daemonLogged := session.daemonLogged

namespace Listening

def startTailing (listening : Listening) : Listening :=
  { listening with
    log := { listening.log with daemonLogOffset := 0 }
    tailing := true
    heard := [] }

def stop (listening : Listening) : Listening :=
  { listening with
    log := { listening.log with connectedSlots := ∅, connectedControllerCount := 0 }
    tailing := false
    heard := [] }

def clear (listening : Listening) : Listening :=
  { listening with
    log := { listening.log with
      daemonLogText := [], daemonLogVersion := listening.log.daemonLogVersion + 1 }
    daemonLogged := [] }

def poll (isNumber : Char → Bool) (bytes : List UInt8) (listening : Listening) : Listening where
  log := pollDaemonLog isNumber listening.log (some bytes)
  tailing := listening.tailing
  heard := listening.heard ++ polledLines listening.log bytes
  daemonLogged := listening.daemonLogged ++ polledLines listening.log bytes

end Listening

/-- What an event can do to what is heard and shown. -/
theorem listening_cases {P : Listening → Prop} (session : Session) (quiet : P session.listening)
    (startTailing : session.daemonRunning = false → P session.listening.startTailing)
    (stop : P session.listening.stop) (clear : P session.listening.clear)
    (polled : ∀ bytes, session.daemonTailTask = true → P (session.listening.poll isNumber bytes))
    (event : Event) : P (step paths isNumber joins session event).listening := by
  cases event with
  | handleFileImport result => rcases result with description | _ | ⟨first, rest⟩ <;> exact quiet
  | unlockAdminPrivileges waited =>
      cases waited with
      | threw description => exact quiet
      | exited code =>
          rw [step, unlockAdminPrivileges]
          split_ifs <;> exact quiet
  | launchInjectedApp isExecutable thrown =>
      rw [step, launchInjectedApp]
      split
      · cases isExecutable <;> cases thrown <;> exact quiet
      · exact quiet
  | stopInjectedApp => exact quiet
  | startDaemon isExecutable waited up =>
      rw [step, startDaemon]
      split_ifs with hcan hexecutable
      · exact quiet
      · exact quiet
      · cases waited with
        | threw description => exact quiet
        | exited code =>
            dsimp only
            split_ifs
            · refine startTailing ?_
              simp only [canStartDaemon, Bool.not_eq_true', Bool.not_eq_false, Bool.and_eq_true]
                at hcan
              exact hcan.2
            · exact quiet
  | stopDaemon waited ended => cases waited <;> exact stop
  | clearAppLog => exact quiet
  | clearDaemonLog => exact clear
  | poll file =>
      rw [step]
      unfold Session.poll
      split_ifs with htail
      · cases file with
        | notOpened => exact quiet
        | seekFailed description => exact quiet
        | content bytes => exact polled bytes htail
      · exact quiet
  | appOutput availableData =>
      rw [step, appOutput]
      split_ifs
      · exact quiet
      · cases decode? availableData <;> exact quiet
  | terminated process code =>
      rw [step, terminated]
      split_ifs <;> exact quiet
  | daemonExited => exact quiet

theorem daemonLogText_appendDaemonLog (text : List Char) (log : ViewModel) :
    (appendDaemonLog text log).daemonLogText =
      appendText isNewline 1200 '\n' text log.daemonLogText := by
  rw [appendDaemonLog, appendText]
  split_ifs <;> rfl

theorem daemonLogText_foldl (text : List (List Char)) (log : ViewModel) :
    (text.foldl (parseControllerActivity isNumber) log).daemonLogText = log.daemonLogText := by
  induction text generalizing log with
  | nil => rfl
  | cons line rest ih => exact ih _

theorem lines_trimmingNewlines (text : List Char) :
    lines isNewline (trimmingNewlines text) = lines isNewline text :=
  (lines_rdropWhile _).trans (lines_dropWhile text)

/-- A poll parses the lines it reads and appends them to the pane. -/
theorem pollDaemonLog_content (log : ViewModel) (bytes : List UInt8) :
    ∃ text before, (pollDaemonLog isNumber log (some bytes)) =
        (polledLines log bytes).foldl (parseControllerActivity isNumber) before ∧
      before.connectedSlots = log.connectedSlots ∧
      before.connectedControllerCount = log.connectedControllerCount ∧
      before.daemonLogText = appendText isNewline 1200 '\n' text log.daemonLogText ∧
      lines isNewline text = polledLines log bytes := by
  rw [pollDaemonLog, polledLines, readLines]
  dsimp only
  split_ifs with hempty
  · rw [hempty]
    exact ⟨[], log, rfl, rfl, rfl, rfl, rfl⟩
  · cases hdecode : decode? (bytes.drop log.daemonLogOffset) with
    | none => exact ⟨[], _, rfl, rfl, rfl, rfl, rfl⟩
    | some chunk =>
        obtain hagree := @agree_appendDaemonLog
          { log with daemonLogOffset := log.daemonLogOffset +
            (bytes.drop log.daemonLogOffset).length } (trimmingNewlines chunk)
        exact ⟨trimmingNewlines chunk, _, rfl, hagree.connectedSlots,
          hagree.connectedControllerCount, daemonLogText_appendDaemonLog _ _,
          lines_trimmingNewlines chunk⟩

/-- What is counted and shown is what was read. -/
structure Listening.Shows (isNumber : Char → Bool) (listening : Listening) : Prop where
  count : listening.log.connectedControllerCount = listening.log.connectedSlots.card
  slots : Follows isNumber listening.log.connectedSlots listening.heard
  silent : listening.tailing = false → listening.heard = []
  pane : lines isNewline listening.log.daemonLogText = listening.daemonLogged.rtake 1200

theorem connectedControllerCount_foldl (text : List (List Char)) {log : ViewModel}
    (hcount : log.connectedControllerCount = log.connectedSlots.card) :
    (text.foldl (parseControllerActivity isNumber) log).connectedControllerCount =
      (text.foldl (parseControllerActivity isNumber) log).connectedSlots.card := by
  induction text generalizing log with
  | nil => exact hcount
  | cons line rest ih => exact ih rfl

theorem Listening.Shows.poll {listening : Listening} (hshows : listening.Shows isNumber)
    (htailing : listening.tailing = true) (bytes : List UInt8) :
    (listening.poll isNumber bytes).Shows isNumber := by
  obtain ⟨text, before, hlog, hslots, hcount, htext, hlines⟩ :=
    @pollDaemonLog_content isNumber listening.log bytes
  have hbefore : before.connectedControllerCount = before.connectedSlots.card := by
    rw [hcount, hslots, hshows.count]
  constructor
  · rw [Listening.poll, hlog]
    exact connectedControllerCount_foldl _ hbefore
  · rw [Listening.poll, hlog]
    exact Follows.lines (hslots ▸ hshows.slots) _
  · exact fun hquiet => absurd (htailing.symm.trans hquiet) (by decide)
  · rw [Listening.poll, hlog]
    dsimp only
    rw [daemonLogText_foldl, htext, ← hlines]
    exact lines_appendText_rtake rfl text hshows.pane

theorem shows_step {session : Session} (hordered : session.status.Ordered)
    (hshows : session.listening.Shows isNumber) (event : Event) :
    (step paths isNumber joins session event).listening.Shows isNumber := by
  apply listening_cases session
  case quiet => exact hshows
  case startTailing =>
    intro hidle
    have hheard : session.heard = [] := hshows.silent (hordered.tailing.trans hidle)
    have hslots : Follows isNumber session.log.connectedSlots session.heard := hshows.slots
    rw [hheard] at hslots
    exact ⟨hshows.count, hslots, fun _ => rfl, hshows.pane⟩
  case stop =>
    exact ⟨rfl, fun slot => by simp [Listening.stop], fun _ => rfl, hshows.pane⟩
  case clear =>
    exact ⟨hshows.count, hshows.slots, hshows.silent, by simp [Listening.clear]⟩
  case polled => exact fun bytes htailing => hshows.poll htailing bytes

theorem listening_appendAppLog (text : List Char) (session : Session) :
    (appendAppLog text session).listening = session.listening := rfl

theorem Listening.shows_init : (init paths).listening.Shows isNumber := by
  rw [init, listening_appendAppLog, listening_appendAppLog]
  refine ⟨rfl, fun slot => iff_of_false (Finset.notMem_empty slot) ?_, fun _ => rfl, ?_⟩
  · exact fun hlast => nomatch (hlast : none = some true)
  · exact (List.rtake_nil _).symm

theorem shows_run (events : List Event) :
    (run (step paths isNumber joins) (init paths) events).status.Ordered ∧
      (run (step paths isNumber joins) (init paths) events).listening.Shows isNumber := by
  apply Machine.run_invariant fun session : Session =>
    session.status.Ordered ∧ session.listening.Shows isNumber
  · rintro state event ⟨hordered, hshows⟩
    exact ⟨(status_step state event).symm ▸ hordered.next event, shows_step hordered hshows event⟩
  · exact ⟨Status.ordered_start, Listening.shows_init⟩

/-- In every session, a daemon is shown only once an app was selected and launched and the rights
were given, the tail task runs just with it, and the count is that of the slots whose last line since
the daemon was started says that they are connected. -/
theorem window_counts_connected (events : List Event) :
    let session := run (step paths isNumber joins) (init paths) events
    session.status.Ordered ∧
      session.log.connectedControllerCount = session.log.connectedSlots.card ∧
      Follows isNumber session.log.connectedSlots session.heard ∧
      (session.daemonRunning = false → session.log.connectedSlots = ∅) := by
  intro session
  obtain ⟨hordered, hshows⟩ := @shows_run paths isNumber joins events
  refine ⟨hordered, hshows.count, hshows.slots, fun hidle => ?_⟩
  have hheard : session.heard = [] := hshows.silent (hordered.tailing.trans hidle)
  refine Finset.eq_empty_of_forall_notMem fun slot hslot => ?_
  have hlast := (hshows.slots slot).mp hslot
  rw [show session.listening.heard = [] from hheard] at hlast
  exact nomatch hlast

/-! ## The panes -/

/-- The text of the app's pane, beside what was appended to it. -/
structure AppPane where
  text : List Char
  logged : List (List Char)

def appPane (session : Session) : AppPane where
  text := session.appLogText
  logged := session.appLogged

def AppPane.append (text : List Char) (pane : AppPane) : AppPane where
  text := appendText isNewline 600 '\n' text pane.text
  logged := pane.logged ++ [text]

theorem appPane_appendAppLog (text : List Char) (session : Session) :
    (appendAppLog text session).appPane = session.appPane.append text := rfl

theorem appPane_startTailingDaemonLog (session : Session) :
    (startTailingDaemonLog session).appPane = session.appPane := rfl

/-- The pane is left as it was, cleared or appended to. -/
theorem appPane_cases {P : AppPane → Prop} (session : Session) (quiet : P session.appPane)
    (clear : P ⟨[], []⟩) (append : ∀ pane text, P pane → P (pane.append text)) (event : Event) :
    P (step paths isNumber joins session event).appPane := by
  have logged {other : Session} (text : List Char) (hsame : other.appPane = session.appPane) :
      P (appendAppLog text other).appPane := append other.appPane text (hsame ▸ quiet)
  cases event with
  | handleFileImport result =>
      rcases result with description | _ | ⟨first, rest⟩
      · exact logged _ rfl
      · exact quiet
      · exact logged _ rfl
  | unlockAdminPrivileges waited =>
      cases waited with
      | threw description => exact logged _ rfl
      | exited code =>
          rw [step, unlockAdminPrivileges]
          split_ifs
          · exact logged _ rfl
          · exact logged _ rfl
  | launchInjectedApp isExecutable thrown =>
      rw [step, launchInjectedApp]
      split
      · split_ifs
        · exact logged _ rfl
        · cases thrown <;> exact logged _ rfl
      · exact quiet
  | stopInjectedApp => exact logged _ rfl
  | startDaemon isExecutable waited up =>
      rw [step, startDaemon]
      split_ifs
      · exact quiet
      · exact logged _ rfl
      · cases waited with
        | threw description => exact logged _ rfl
        | exited code =>
            dsimp only
            split_ifs
            · rw [appPane_startTailingDaemonLog]
              exact logged _ rfl
            · exact logged _ rfl
  | stopDaemon waited ended =>
      cases waited with
      | exited code => exact logged _ rfl
      | threw description =>
          rw [step, stopDaemon, appPane_appendAppLog]
          refine append _ _ ?_
          exact logged ("[app] stop daemon request failed: ".toList ++ description) rfl
  | clearAppLog => exact clear
  | clearDaemonLog => exact quiet
  | poll file =>
      rw [step]
      unfold Session.poll
      split_ifs
      · cases file with
        | notOpened => exact quiet
        | seekFailed description => exact logged _ rfl
        | content bytes => exact quiet
      · exact quiet
  | appOutput availableData =>
      rw [step, appOutput]
      split_ifs
      · exact quiet
      · cases decode? availableData with
        | none => exact quiet
        | some chunk => exact logged _ rfl
  | terminated process code =>
      rw [step, terminated]
      split_ifs
      · exact logged _ rfl
      · exact quiet
  | daemonExited => exact quiet

/-- The pane shows the last lines that were appended to it. -/
def AppPane.Shows (pane : AppPane) : Prop :=
  lines isNewline pane.text = (pane.logged.flatMap (lines isNewline)).rtake 600

theorem AppPane.Shows.append {pane : AppPane} (hshows : pane.Shows) (text : List Char) :
    (pane.append text).Shows := by
  rw [AppPane.Shows, AppPane.append, List.flatMap_append, List.flatMap_singleton]
  exact lines_appendText_rtake rfl text hshows

/-- In every session the panes show the last 600 lines that were appended to the one since it was
cleared, and the last 1200 lines that the polls read since the other was cleared. -/
theorem panes_show_last_lines (events : List Event) :
    let session := run (step paths isNumber joins) (init paths) events
    lines isNewline session.appLogText =
        (session.appLogged.flatMap (lines isNewline)).rtake 600 ∧
      lines isNewline session.log.daemonLogText = session.daemonLogged.rtake 1200 := by
  have hempty : AppPane.Shows ⟨[], []⟩ := (List.rtake_nil _).symm
  refine ⟨?_, (shows_run events).2.pane⟩
  apply Machine.run_invariant fun session : Session => session.appPane.Shows
  · intro state event hshows
    apply appPane_cases state
    · exact hshows
    · exact hempty
    · exact fun _ text hpane => hpane.append text
  · rw [init, appPane_appendAppLog, appPane_appendAppLog]
    exact (hempty.append _).append _

end Session

end XoneDarwin.ControlCenter
