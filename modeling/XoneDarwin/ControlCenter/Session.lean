import XoneDarwin.ControlCenter.LogReader
import XoneDarwin.ControlCenter.Quoting
import XoneDarwin.Machine.Run

/-!
# A session of the control app

`ControlCenterViewModel` as a machine: the buttons of `ContentView`, the polls of the tail task
and what the launched processes hand to the main actor. A call that waits for a process is one
step: what runs while it waits does not touch what the call has checked.
-/

namespace XoneDarwin.ControlCenter

open Lines Utf8

/-! ## State -/

/-- `URL`, as far as the app reads it. -/
structure AppUrl where
  path : List Char
  lastPathComponent : List Char

/-- How a process that is waited for ends. -/
inductive Waited
  | exited (terminationStatus : Int)
  | threw (localizedDescription : List Char)

def Waited.succeeded : Waited → Bool
  | .exited terminationStatus => terminationStatus == 0
  | .threw _ => false

/-- What a poll finds. -/
inductive LogFile
  | notOpened
  | seekFailed (localizedDescription : List Char)
  | content (bytes : List UInt8)

/-- What `init` and `resolveXboxDaemonDirectory` fix. -/
structure Paths where
  daemonPath : List Char
  launcherPath : List Char
  daemonDirectoryPath : List Char
  daemonLogPath : List Char
  daemonLogDirectory : List Char

/-- What the app asks of the system. -/
inductive AppCall
  | osascript (script : List Char)
  | launch (process : Nat) (arguments : List (List Char))
  | terminate (process : Nat)
  deriving DecidableEq

structure Session where
  /-- the daemon's log and the controllers -/
  log : ViewModel := .init
  selectedAppURL : Option AppUrl := none
  daemonRunning : Bool := false
  injectedAppRunning : Bool := false
  statusMessage : List Char := "Select an app to begin.".toList
  appLogText : List Char := []
  appLogVersion : Nat := 0
  adminUnlocked : Bool := false
  hasLaunchedInjectedApp : Bool := false
  /-- is there a `daemonTailTask`? -/
  daemonTailTask : Bool := false
  injectedProcess : Option Nat := none
  /-- The calls so far, newest first. -/
  calls : List AppCall := []
  /-- The processes launched so far. -/
  launched : Nat := 0
  /-- The launched processes whose termination handler has not run yet. -/
  running : List Nat := []
  /-- The daemons of the start script that run. The app does not see them. -/
  daemons : Nat := 0
  /-- The texts appended to the app's pane since it was cleared. The app does not keep them. -/
  appLogged : List (List Char) := []
  /-- The lines read since the daemon's pane was cleared. The app does not keep them. -/
  daemonLogged : List (List Char) := []
  /-- The lines read since the tail task was started. The app does not keep them. -/
  heard : List (List Char) := []

namespace Session

variable (paths : Paths)

section

-- Which scalars are numbers and which join the one before are tables of Unicode.
variable (isNumber joins : Char → Bool)

/-! ## Panes -/

-- an empty text changes neither the text nor the version
def appendAppLog (text : List Char) (session : Session) : Session :=
  { session with
    appLogText := appendText isNewline 600 '\n' text session.appLogText
    appLogVersion := if text = [] then session.appLogVersion else session.appLogVersion + 1
    appLogged := session.appLogged ++ [text] }

def clearAppLog (session : Session) : Session :=
  { session with appLogText := [], appLogVersion := session.appLogVersion + 1, appLogged := [] }

def clearDaemonLog (session : Session) : Session :=
  { session with
    log := { session.log with
      daemonLogText := [], daemonLogVersion := session.log.daemonLogVersion + 1 }
    daemonLogged := [] }

def init : Session :=
  appendAppLog ("[app] launcher path: ".toList ++ paths.launcherPath)
    (appendAppLog ("[app] daemon path: ".toList ++ paths.daemonPath) {})

/-! ## Buttons -/

def canLaunchInjectedApp (session : Session) : Bool :=
  session.selectedAppURL.isSome && !session.injectedAppRunning

def canStartDaemon (session : Session) : Bool :=
  session.adminUnlocked && session.hasLaunchedInjectedApp && !session.daemonRunning

def handleFileImport (result : Except (List Char) (List AppUrl)) (session : Session) : Session :=
  match result with
  | .ok [] => { session with statusMessage := "No app selected.".toList }
  | .ok (first :: _) =>
      appendAppLog ("[app] selected app: ".toList ++ first.path)
        { session with
          selectedAppURL := some first
          statusMessage := "Selected ".toList ++
            (first.lastPathComponent ++ ". Start the daemon next.".toList) }
  | .error description =>
      appendAppLog ("[app] file picker error: ".toList ++ description)
        { session with statusMessage := "Failed to select app: ".toList ++ description }

/-- Runs an AppleScript. -/
def runScript (script : List Char) (session : Session) : Session :=
  { session with calls := .osascript script :: session.calls }

def exitText (status : Int) : List Char :=
  " (exit ".toList ++ ((toString status).toList ++ ")".toList)

def unlockAdminPrivileges (waited : Waited) (session : Session) : Session :=
  let session := runScript
    "do shell script \"/usr/bin/true\" with administrator privileges".toList session
  match waited with
  | .exited status =>
      if status = 0 then
        appendAppLog "[app] admin privileges unlocked".toList
          { session with
            adminUnlocked := true
            statusMessage := "Administrator access granted for this session.".toList }
      else appendAppLog ("[app] admin unlock failed".toList ++ exitText status) session
  | .threw description => appendAppLog ("[app] admin unlock error: ".toList ++ description) session

def startTailingDaemonLog (session : Session) : Session :=
  { session with
    log := { session.log with daemonLogOffset := 0 }
    daemonTailTask := true
    heard := [] }

/-- The script leaves the daemon in the background: whether it is `up` does not show in `waited`. -/
def startDaemon (isExecutable : Bool) (waited : Waited) (up : Bool) (session : Session) : Session :=
  if !session.canStartDaemon then
    { session with
      statusMessage := "Unlock admin, launch injection, then start daemon.".toList }
  else if !isExecutable then
    appendAppLog ("[app] missing executable: ".toList ++ paths.daemonPath)
      { session with
        statusMessage :=
          "xbox_daemon binary not found. Build it first in XboxDaemon/.".toList }
  else
    let session := runScript (startDaemonScript joins paths.daemonLogDirectory
      paths.daemonLogPath paths.daemonDirectoryPath)
        { session with daemons := session.daemons + up.toNat }
    match waited with
    | .exited status =>
        if status = 0 then
          startTailingDaemonLog
            (appendAppLog "[app] daemon started via administrator privileges".toList
              { session with
                daemonRunning := true
                statusMessage :=
                  "Daemon started. Controller data should appear in logs.".toList })
        else
          appendAppLog ("[app] failed to start daemon".toList ++ exitText status)
            { session with statusMessage := "Failed to start daemon.".toList }
    | .threw description =>
        appendAppLog ("[app] osascript error: ".toList ++ description)
          { session with
            statusMessage := "Could not request admin rights: ".toList ++ description }

/-- The text of the `pkill` script of `stopDaemon`. -/
def stopDaemonScript : List Char :=
  scriptStart ++ (appleScriptString joins ("pkill -f ".toList ++
    (shellQuote joins paths.daemonPath ++ " || true".toList)) ++ scriptEnd)

/-- The script succeeds even if `pkill` matches nothing: `ended` daemons end. -/
def stopDaemon (waited : Waited) (ended : Nat) (session : Session) : Session :=
  let session := runScript (stopDaemonScript paths joins)
    { session with daemons := session.daemons - ended }
  let session :=
    match waited with
    | .exited _ => session
    | .threw description =>
        appendAppLog ("[app] stop daemon request failed: ".toList ++ description) session
  appendAppLog "[app] daemon stopped".toList
    { session with
      daemonTailTask := false
      daemonRunning := false
      log := { session.log with connectedSlots := ∅, connectedControllerCount := 0 }
      heard := []
      statusMessage := "Daemon stopped.".toList }

/-- `thrown` is what `run` throws, if it does. -/
def launchInjectedApp (isExecutable : Bool) (thrown : Option (List Char)) (session : Session) :
    Session :=
  match session.canLaunchInjectedApp, session.selectedAppURL with
  | true, some selectedAppURL =>
      if !isExecutable then
        appendAppLog ("[app] missing launcher: ".toList ++ paths.launcherPath)
          { session with statusMessage := "launch_ryujinx_injected.sh not found.".toList }
      else
        match thrown with
        | none =>
            appendAppLog ("[app] injected launch started for ".toList ++ selectedAppURL.path)
              { session with
                calls := .launch session.launched [paths.launcherPath, selectedAppURL.path] ::
                  session.calls
                launched := session.launched + 1
                running := session.launched :: session.running
                injectedProcess := some session.launched
                injectedAppRunning := true
                hasLaunchedInjectedApp := true
                statusMessage := "Injected app started.".toList }
        | some description =>
            appendAppLog ("[app] launch error: ".toList ++ description)
              { session with
                statusMessage := "Failed to launch injected app: ".toList ++ description }
  | _, _ => { session with statusMessage := "Select app first.".toList }

def stopInjectedApp (session : Session) : Session :=
  appendAppLog "[app] requested injected app terminate".toList
    { session with
      calls := (session.injectedProcess.map AppCall.terminate).toList ++ session.calls
      injectedProcess := none
      injectedAppRunning := false }

/-! ## Tasks of the main actor -/

/-- The task of a `readabilityHandler`. -/
def appOutput (availableData : List UInt8) (session : Session) : Session :=
  if availableData = [] then session
  else
    match decode? availableData with
    | none => session
    | some chunk => appendAppLog (trimmingNewlines chunk) session

/-- The task of a `terminationHandler`, which a process hands over once. -/
def terminated (process : Nat) (status : Int) (session : Session) : Session :=
  if process ∈ session.running then
    appendAppLog ("[app] injected app exited with code ".toList ++ (toString status).toList)
      { session with
        running := session.running.filter (· ≠ process)
        injectedAppRunning := false }
  else session

/-- The lines that a poll takes from the log. -/
def polledLines (log : ViewModel) (content : List UInt8) : List (List Char) :=
  readLines (content.drop log.daemonLogOffset)

/-- One round of the tail task. -/
def poll (file : LogFile) (session : Session) : Session :=
  if session.daemonTailTask then
    match file with
    | .notOpened => { session with log := pollDaemonLog isNumber session.log none }
    | .seekFailed description =>
        appendAppLog ("[app] log tail error: ".toList ++ description) session
    | .content bytes =>
        { session with
          log := pollDaemonLog isNumber session.log (some bytes)
          daemonLogged := session.daemonLogged ++ polledLines session.log bytes
          heard := session.heard ++ polledLines session.log bytes }
  else session

/-! ## Steps -/

end

inductive Event
  | handleFileImport (result : Except (List Char) (List AppUrl))
  | unlockAdminPrivileges (waited : Waited)
  | launchInjectedApp (isExecutable : Bool) (thrown : Option (List Char))
  | stopInjectedApp
  | startDaemon (isExecutable : Bool) (waited : Waited) (up : Bool)
  | stopDaemon (waited : Waited) (ended : Nat)
  | clearAppLog
  | clearDaemonLog
  | poll (file : LogFile)
  | appOutput (availableData : List UInt8)
  | terminated (process : Nat) (status : Int)
  /-- a daemon ends by itself -/
  | daemonExited

variable (isNumber joins : Char → Bool)

def step (session : Session) : Event → Session
  | .handleFileImport result => handleFileImport result session
  | .unlockAdminPrivileges waited => unlockAdminPrivileges waited session
  | .launchInjectedApp isExecutable thrown => launchInjectedApp paths isExecutable thrown session
  | .stopInjectedApp => stopInjectedApp session
  | .startDaemon isExecutable waited up => startDaemon paths joins isExecutable waited up session
  | .stopDaemon waited ended => stopDaemon paths joins waited ended session
  | .clearAppLog => clearAppLog session
  | .clearDaemonLog => clearDaemonLog session
  | .poll file => poll isNumber file session
  | .appOutput availableData => appOutput availableData session
  | .terminated process status => terminated process status session
  | .daemonExited => { session with daemons := session.daemons - 1 }

end Session

end XoneDarwin.ControlCenter
