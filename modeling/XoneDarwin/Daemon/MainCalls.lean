import XoneDarwin.Daemon.Launch
import XoneDarwin.Machine.Traces

/-!
# What `main` opens and gives back

An acceptor for the calls of `main`, and what each stage leaves open. Whichever calls fail
and whenever a signal comes, cleanup finds what it has to give back in the globals.
-/

namespace XoneDarwin.Launch

open Machine (Attempt accept)

/-! ## What may be called when -/

/-- What is open. -/
structure Phase where
  socket : Bool := false
  context : Bool := false
  list : Bool := false
  handle : Option Handle := none
  claimed : Bool := false
  config : Bool := false
  file : Bool := false
  buffer : Bool := false
  reader1 : Bool := false
  reader2 : Bool := false
  deriving DecidableEq

namespace Phase

/-- A pointer to the open dongle. -/
def Live (phase : Phase) (handle : Option Handle) : Prop :=
  handle ≠ none ∧ handle = phase.handle

instance (phase : Phase) (handle : Option Handle) : Decidable (phase.Live handle) :=
  inferInstanceAs (Decidable (_ ∧ _))

/-- No reader thread is there. -/
def Quiet (phase : Phase) : Prop :=
  phase.reader1 = false ∧ phase.reader2 = false

instance (phase : Phase) : Decidable phase.Quiet :=
  inferInstanceAs (Decidable (_ ∧ _))

def reader (phase : Phase) : Thread → Bool
  | .reader1 => phase.reader1
  | .reader2 => phase.reader2

def setReader (phase : Phase) (on : Bool) : Thread → Phase
  | .reader1 => { phase with reader1 := on }
  | .reader2 => { phase with reader2 := on }

def allow (allowed : Prop) [Decidable allowed] (later : Phase) : Option Phase :=
  if allowed then some later else none

theorem allow_eq {allowed : Prop} [Decidable allowed] (h : allowed) (later : Phase) :
    allow allowed later = some later :=
  if_pos h

/-- What is open after a call; none if the call is out of place. Nothing is opened twice or
given back unless it is there, the dongle is used through the pointer to it while it is open,
its interface while it is claimed, and neither is taken from a thread that reads. Only
`libusb_release_interface` is for an interface that is claimed or not. -/
def next (phase : Phase) : Call → Option Phase
  | .openSocket ok => allow (phase.socket = false) { phase with socket := ok }
  | .closeSocket => allow (phase.socket = true) { phase with socket := false }
  | .usbInit ok => allow (phase.context = false) { phase with context := ok }
  | .usbExit =>
      allow (phase.context = true ∧ phase.handle = none ∧ phase.list = false)
        { phase with context := false }
  | .getDeviceList ok =>
      allow (phase.context = true ∧ phase.list = false) { phase with list := ok }
  | .freeDeviceList => allow (phase.list = true) { phase with list := false }
  | .openDevice _ handle =>
      allow (phase.context = true ∧ phase.handle = none) { phase with handle := handle }
  | .closeDevice handle =>
      allow (phase.Live handle ∧ phase.Quiet) { phase with handle := none, claimed := false }
  | .resetDevice handle _ => allow (phase.Live handle ∧ phase.Quiet) phase
  | .kernelDriverActive handle _ => allow (phase.Live handle) phase
  | .detachKernelDriver handle => allow (phase.Live handle) phase
  | .setConfiguration handle => allow (phase.Live handle ∧ phase.claimed = false) phase
  | .claimInterface handle ok =>
      allow (phase.Live handle ∧ phase.claimed = false) { phase with claimed := ok }
  | .releaseInterface handle =>
      allow (phase.Live handle ∧ phase.Quiet) { phase with claimed := false }
  | .getConfigDescriptor handle ok =>
      allow (phase.Live handle ∧ phase.config = false) { phase with config := ok }
  | .freeConfigDescriptor => allow (phase.config = true) { phase with config := false }
  | .getDeviceDescriptor handle => allow (phase.Live handle) phase
  | .openFile ok => allow (phase.file = false) { phase with file := ok }
  | .closeFile => allow (phase.file = true) { phase with file := false }
  | .malloc ok => allow (phase.buffer = false) { phase with buffer := ok }
  | .readFile _ => allow (phase.file = true ∧ phase.buffer = true) phase
  | .free => allow (phase.buffer = true) { phase with buffer := false }
  | .transfers handle => allow (phase.Live handle ∧ phase.claimed = true) phase
  | .createThread thread _ ok =>
      allow (phase.claimed = true ∧ phase.reader thread = false) (phase.setReader ok thread)
  | .joinThread thread => allow (phase.reader thread = true) (phase.setReader false thread)
  | .sleep => some phase

/-- Between the stages: the context is open, the dongle perhaps. -/
def idle (socket : Bool) (handle : Option Handle) (claimed : Bool) : Phase :=
  { socket := socket, context := true, handle := handle, claimed := handle.isSome && claimed }

end Phase

/-- A list was made if it was asked for. -/
def Call.listed : Call → Bool
  | .getDeviceList ok => ok
  | _ => true

/-- A thread was started if it was asked for. -/
def Call.started : Call → Bool
  | .createThread _ _ ok => ok
  | _ => true

/-- No outcome that `main` does not look at is a failure. -/
def Call.fine (call : Call) : Bool :=
  call.listed && call.started

/-- The calls lead to `phase` if all of them are good, and else one is out of place. -/
def Accepts (good : Call → Bool) (phase : Phase) (log : List Call) : Prop :=
  accept Phase.next {} log.reverse = if log.all good then some phase else none

theorem Accepts.call {good : Call → Bool} {phase later : Phase} {log : List Call}
    (haccepts : Accepts good phase log) (call : Call) (hgood : good call = true)
    (hnext : phase.next call = some later) : Accepts good later (call :: log) := by
  unfold Accepts at *
  rw [List.reverse_cons, Machine.accept_append, haccepts, List.all_cons, hgood, Bool.true_and]
  split
  · simp [hnext]
  · rfl

theorem accept_rejected {phase : Phase} {log : List Call} (call : Call)
    (hlog : ∀ later, accept Phase.next phase log.reverse = some later → later.next call = none) :
    accept Phase.next phase (call :: log).reverse = none := by
  rw [List.reverse_cons, Machine.accept_append]
  cases haccepted : accept Phase.next phase log.reverse with
  | none => rfl
  | some later => simp [hlog later haccepted]

theorem Accepts.eq {good : Call → Bool} {phase later : Phase} {log : List Call}
    (haccepts : Accepts good phase log) (hlater : accept Phase.next {} log.reverse = some later) :
    later = phase := by
  unfold Accepts at haccepts
  rw [haccepts] at hlater
  split at hlater
  · exact (Option.some.inj hlater).symm
  · cases hlater

/-- After a call out of place the rest does not matter. -/
theorem Accepts.of_rejected (good : Call → Bool) {log : List Call}
    (hrejected : accept Phase.next {} log.reverse = none) (hbad : log.all good = false)
    (phase : Phase) : Accepts good phase log := by
  unfold Accepts
  rw [hrejected, hbad]
  rfl

/-- The state goes with what is open. -/
structure Tracks (good : Call → Bool) (g : Globals) (phase : Phase) (s : State) : Prop where
  accepted : Accepts good phase s.log
  globals : s.globals = g
  dev : s.dev = phase.handle
  socket : s.socket = phase.socket

theorem Tracks.call {good : Call → Bool} {g : Globals} {phase later : Phase} {s : State}
    (htracks : Tracks good g phase s) (call : Call) (hgood : good call = true)
    (hnext : phase.next call = some later) (hdev : later.handle = phase.handle)
    (hsocket : later.socket = phase.socket) : Tracks good g later (s.call call) where
  accepted := htracks.accepted.call call hgood hnext
  globals := htracks.globals
  dev := htracks.dev.trans hdev.symm
  socket := htracks.socket.trans hsocket.symm

/-- The same, with the threads that were to be started. -/
structure Held (started : Bool) (g : Globals) (phase : Phase) (s : State) : Prop where
  tracks : Tracks Call.listed g phase s
  threads : s.log.all Call.started = started

theorem Held.call {started : Bool} {g : Globals} {phase later : Phase} {s : State}
    (hheld : Held started g phase s) (call : Call) (hlisted : call.listed = true)
    (hstarted : call.started = true) (hnext : phase.next call = some later)
    (hdev : later.handle = phase.handle) (hsocket : later.socket = phase.socket) :
    Held started g later (s.call call) where
  tracks := hheld.tracks.call call hlisted hnext hdev hsocket
  threads := by
    rw [State.call, List.all_cons, hstarted, hheld.threads, Bool.true_and]

section

variable (outside : Outside)

/-! ## Event socket, context, device lists -/

theorem initEventUdpFromEnv_held :
    ∃ b, Held true {} { socket := b } (initEventUdpFromEnv outside {}) := by
  have hstart : Held true {} {} {} := ⟨⟨rfl, rfl, rfl, rfl⟩, rfl⟩
  unfold initEventUdpFromEnv
  split
  · exact ⟨false, hstart⟩
  · dsimp only
    split
    · exact ⟨false, hstart⟩
    · cases hmade : State.outcome outside {} with
      | false =>
          simp only [Bool.not_false, if_true]
          exact ⟨false, hstart.call _ rfl rfl rfl rfl rfl⟩
      | true =>
          -- the socket is there before `g_event_udp_sock` is set
          have hopen : Accepts Call.listed { socket := true } [.openSocket true] :=
            hstart.tracks.accepted.call _ rfl rfl
          simp only [Bool.not_true, Bool.false_eq_true, if_false]
          split
          · exact ⟨false, ⟨hopen.call _ rfl rfl, rfl, rfl, rfl⟩, rfl⟩
          · exact ⟨true, ⟨hopen, rfl, rfl, rfl⟩, rfl⟩

variable {outside}

/-- A list that could not be made is given back all the same. -/
theorem listUsbDevices_held {g : Globals} {b : Bool} {handle : Option Handle} {claimed : Bool}
    {s : State} (hheld : Held true g (.idle b handle claimed) s) :
    Held true g (.idle b handle claimed) (listUsbDevices outside s) := by
  unfold listUsbDevices
  cases hmade : s.outcome outside with
  | true =>
      have hlist := hheld.call (.getDeviceList true) rfl rfl rfl rfl rfl
      exact hlist.call _ rfl rfl rfl rfl rfl
  | false =>
      refine ⟨⟨?_, hheld.tracks.globals, hheld.tracks.dev, hheld.tracks.socket⟩, ?_⟩
      · have haccepted := hheld.tracks.accepted
        unfold Accepts at haccepted ⊢
        simp only [State.call, List.reverse_cons, List.append_assoc, Machine.accept_append,
          haccepted]
        split
        · rfl
        · rfl
      · exact hheld.threads

/-! ## Stages -/

/-- A stage that is reached leaves `Q`; else cleanup or the way out find what they expect. -/
def Ends (b : Bool) (Q : State → Prop) : Exit → State → Prop
  | .reached, s => Q s
  | .cleanup, s => ∃ g handle claimed, Held true g (.idle b handle claimed) s
  | .failed, s => Held true {} { socket := b } s
  | .waiting, s => ∃ started g phase, Held started g phase s

theorem Ends.andThen {b : Bool} {P Q R : State → Prop} {first second : Stage}
    (hfirst : Attempt.Meets P first (Ends b Q)) (hsecond : Attempt.Meets Q second (Ends b R)) :
    Attempt.Meets P (first.andThen .reached second) (Ends b R) := by
  refine Attempt.Meets.andThen hfirst hsecond fun code s hcode hs => ?_
  cases code with
  | reached => exact absurd rfl hcode
  | cleanup => exact hs
  | failed => exact hs
  | waiting => exact hs

theorem step_ends {b : Bool} {P Q : State → Prop} {f : State → State} (hf : ∀ s, P s → Q (f s)) :
    Attempt.Meets P (step f) (Ends b Q) :=
  hf

/-- Nothing but the context and the socket is open. -/
def NoDongle (g : Globals) (b : Bool) (s : State) : Prop :=
  Held true g (.idle b none false) s

/-- The dongle is open and its interface claimed or not. -/
def HasDongle (g : Globals) (b claimed : Bool) (s : State) : Prop :=
  ∃ handle, Held true g (.idle b (some handle) claimed) s

variable {b claimed : Bool} {g : Globals}

theorem HasDongle.ends {s : State} (hdongle : HasDongle g b claimed s) (Q : State → Prop) :
    Ends b Q .cleanup s := by
  obtain ⟨handle, hheld⟩ := hdongle
  exact ⟨g, some handle, claimed, hheld⟩

theorem initUsb_ends :
    Attempt.Meets (Held true {} { socket := b }) (initUsb outside) (Ends b (NoDongle {} b)) := by
  intro s hheld
  unfold initUsb
  cases hmade : s.outcome outside with
  | false => exact hheld.call _ rfl rfl rfl rfl rfl
  | true => exact hheld.call _ rfl rfl rfl rfl rfl

theorem probeHid_held {s : State} (hheld : NoDongle {} b s) :
    NoDongle { daemon := mainStart (outside.world .v1 b) } b (probeHid outside s) := by
  have hglobals : (probeHid outside s).globals =
      { daemon := mainStart (outside.world .v1 b) } := by
    simp only [probeHid, hheld.tracks.globals, hheld.tracks.socket, Phase.idle]
  exact ⟨⟨hheld.tracks.accepted, hglobals, hheld.tracks.dev, hheld.tracks.socket⟩, hheld.threads⟩

/-! ## The dongle -/

/-- Each product id is tried until one is there; the pointer that is returned is the handle
that was opened. -/
theorem openFirst_held (products : List Pid) {s : State} (hheld : NoDongle g b s) :
    Held true g (.idle b (openFirst outside products s).1 false)
      { (openFirst outside products s).2 with dev := (openFirst outside products s).1 } := by
  induction products generalizing s with
  | nil => exact ⟨⟨hheld.tracks.accepted, hheld.tracks.globals, rfl, hheld.tracks.socket⟩,
      hheld.threads⟩
  | cons product rest ih =>
      unfold openFirst
      cases hmade : s.outcome outside with
      | true =>
          exact ⟨⟨hheld.tracks.accepted.call _ rfl rfl, hheld.tracks.globals, rfl,
            hheld.tracks.socket⟩, hheld.threads⟩
      | false => exact ih (hheld.call _ rfl rfl rfl rfl rfl)

theorem openDongle_held (outside : Outside) {s : State} (hheld : NoDongle g b s) :
    NoDongle g b (openDongle outside s) ∧ (openDongle outside s).dev = none ∨
      HasDongle g b false (openDongle outside s) ∧ (openDongle outside s).dev ≠ none := by
  have htried : Held true g (.idle b (openDongle outside s).dev false) (openDongle outside s) :=
    openFirst_held [.v1, .v2, .v3] hheld
  cases hdev : (openDongle outside s).dev with
  | none =>
      rw [hdev] at htried
      exact Or.inl ⟨htried, rfl⟩
  | some handle =>
      rw [hdev] at htried
      exact Or.inr ⟨⟨handle, htried⟩, Option.some_ne_none handle⟩

theorem NoDongle.call {s : State} (hheld : NoDongle g b s) (call : Call)
    (hlisted : call.listed = true) (hstarted : call.started = true)
    (hnext : (Phase.idle b none false).next call = some (.idle b none false)) :
    NoDongle g b (s.call call) :=
  Held.call hheld call hlisted hstarted hnext rfl rfl

/-- The pointer is that of the open handle. -/
theorem Held.live {started : Bool} {phase : Phase} {s : State} (hheld : Held started g phase s)
    {handle : Handle} (hopen : phase.handle = some handle) : phase.Live s.dev := by
  refine ⟨?_, hheld.tracks.dev⟩
  rw [hheld.tracks.dev, hopen]
  exact Option.some_ne_none handle

theorem HasDongle.call {s : State} (hdongle : HasDongle g b claimed s) (call : Call)
    (hlisted : call.listed = true) (hstarted : call.started = true)
    (hnext : ∀ handle, (Phase.idle b (some handle) claimed).Live s.dev →
      (Phase.idle b (some handle) claimed).next call = some (.idle b (some handle) claimed)) :
    HasDongle g b claimed (s.call call) := by
  obtain ⟨handle, hheld⟩ := hdongle
  exact ⟨handle, hheld.call call hlisted hstarted (hnext handle (hheld.live rfl)) rfl rfl⟩

/-- The loop ends with the dongle open, or without it once `g_running` is cleared. -/
theorem waitForDongle_ends (rounds : Nat) :
    Attempt.Meets (NoDongle g b) (waitForDongle outside rounds)
      (Ends b fun s => HasDongle g b false s ∨ NoDongle g b s ∧ s.running outside = false) := by
  induction rounds with
  | zero => exact fun s hheld => ⟨true, g, _, hheld⟩
  | succ rounds ih =>
      intro s hheld
      unfold waitForDongle
      cases hrunning : s.running outside with
      | false => exact Or.inr ⟨hheld, hrunning⟩
      | true =>
          rw [if_pos rfl]
          rcases openDongle_held outside hheld with ⟨hnone, hdev⟩ | ⟨hsome, hdev⟩
          · simp only [hdev, Option.isSome_none, Bool.false_eq_true, if_false]
            exact ih _ (listUsbDevices_held (hnone.call .sleep rfl rfl rfl))
          · simp only [Option.isSome_iff_ne_none.mpr hdev, if_true]
            exact Or.inl hsome

theorem checkRunning_ends :
    Attempt.Meets (fun s => HasDongle g b false s ∨ NoDongle g b s ∧ s.running outside = false)
      (checkRunning outside) (Ends b (HasDongle g b false)) := by
  intro s hs
  unfold checkRunning
  cases hrunning : s.running outside with
  | false =>
      rcases hs with hdongle | ⟨hheld, -⟩
      · exact hdongle.ends _
      · exact ⟨g, none, false, hheld⟩
  | true =>
      rcases hs with hdongle | ⟨-, hstopped⟩
      · exact hdongle
      · exact absurd (hrunning.symm.trans hstopped) (by decide)

theorem reopenDongle_held (outside : Outside) (attempts : Nat) {s : State}
    (hs : NoDongle g b s ∧ s.dev = none ∨ HasDongle g b false s ∧ s.dev ≠ none) :
    NoDongle g b (reopenDongle outside attempts s) ∧ (reopenDongle outside attempts s).dev = none ∨
      HasDongle g b false (reopenDongle outside attempts s) ∧
        (reopenDongle outside attempts s).dev ≠ none := by
  induction attempts generalizing s with
  | zero => exact hs
  | succ attempts ih =>
      unfold reopenDongle
      split
      next hagain =>
        rcases hs with ⟨hheld, -⟩ | ⟨-, hdev⟩
        · apply ih
          rcases openDongle_held outside hheld with ⟨hnone, hdev⟩ | ⟨hsome, hdev⟩
          · rw [if_pos hdev]
            exact Or.inl ⟨hnone.call _ rfl rfl rfl, hdev⟩
          · rw [if_neg hdev]
            exact Or.inr ⟨hsome, hdev⟩
        · exact absurd hagain.2 hdev
      next => exact hs

theorem resetDongle_ends :
    Attempt.Meets (HasDongle g b false) (resetDongle outside) (Ends b (HasDongle g b false)) := by
  intro s hdongle
  unfold resetDongle
  split
  · obtain ⟨handle, hheld⟩ := hdongle
    have hlive := hheld.live rfl
    cases hmade : s.outcome outside with
    | false => exact ⟨handle, hheld.call _ rfl rfl (Phase.allow_eq ⟨hlive, rfl, rfl⟩ _) rfl rfl⟩
    | true =>
        have hreset := hheld.call (.resetDevice s.dev true) rfl rfl
          (Phase.allow_eq ⟨hlive, rfl, rfl⟩ _) rfl rfl
        -- the pointer is cleared with the handle, so cleanup will not close it again
        have hclosed : NoDongle g b
            { (s.call (.resetDevice s.dev true)).call (.closeDevice s.dev) with dev := none } :=
          ⟨⟨hreset.tracks.accepted.call _ rfl (Phase.allow_eq ⟨hlive, rfl, rfl⟩ _),
            hreset.tracks.globals, rfl, hreset.tracks.socket⟩, hreset.threads⟩
        have hreopened := reopenDongle_held outside 30
          (Or.inl ⟨hclosed.call .sleep rfl rfl rfl, rfl⟩)
        dsimp only
        rw [if_pos rfl]
        rcases hreopened with ⟨hnone, hdev⟩ | ⟨hsome, hdev⟩
        · rw [if_pos hdev]
          exact ⟨g, none, false, hnone⟩
        · rw [if_neg hdev]
          exact hsome
  · exact hdongle

theorem detachKernelDriver_held {s : State} (hdongle : HasDongle g b false s) :
    HasDongle g b false (setConfiguration (detachKernelDriver outside s)) := by
  have hasked := hdongle.call (.kernelDriverActive s.dev (s.outcome outside)) rfl rfl
    fun _ hlive => Phase.allow_eq hlive _
  have hdetached : HasDongle g b false (detachKernelDriver outside s) := by
    unfold detachKernelDriver
    dsimp only
    split
    · exact hasked.call _ rfl rfl fun _ hlive => Phase.allow_eq hlive _
    · exact hasked
  exact hdetached.call _ rfl rfl fun _ hlive => Phase.allow_eq ⟨hlive, rfl⟩ _

theorem claimInterface_ends :
    Attempt.Meets (HasDongle g b false) (claimInterface outside)
      (Ends b (HasDongle g b true)) := by
  intro s hdongle
  obtain ⟨handle, hheld⟩ := hdongle
  have hlive := hheld.live rfl
  unfold claimInterface
  cases hmade : s.outcome outside with
  | true => exact ⟨handle, hheld.call _ rfl rfl (Phase.allow_eq ⟨hlive, rfl⟩ _) rfl rfl⟩
  | false =>
      exact ⟨g, some handle, false, hheld.call _ rfl rfl (Phase.allow_eq ⟨hlive, rfl⟩ _) rfl rfl⟩

/-! ## Endpoints -/

/-- The addresses of the bulk endpoints into the host, in the order of the descriptor. -/
def bulkIns (endpoints : List Endpoint) : List UInt8 :=
  (endpoints.filter fun ep => ep.isBulk && ep.isIn).map Endpoint.bEndpointAddress

/-- The endpoint for GIP commands. -/
def Endpoint.isGip (ep : Endpoint) : Bool :=
  ep.isBulk && !ep.isIn && ep.bEndpointAddress == 0x08

theorem bulkIns_ne_zero {endpoints : List Endpoint} {addr : UInt8}
    (hmem : addr ∈ bulkIns endpoints) : addr ≠ 0 := by
  obtain ⟨ep, hep, rfl⟩ := List.mem_map.mp hmem
  have hin : ep.isIn = true := by
    have hboth := (List.mem_filter.mp hep).2
    rw [Bool.and_eq_true] at hboth
    exact hboth.2
  intro hzero
  rw [Endpoint.isIn, hzero] at hin
  exact absurd hin (by decide)

theorem bulkIns_concat (endpoints : List Endpoint) (ep : Endpoint) :
    bulkIns (endpoints ++ [ep]) =
      bulkIns endpoints ++ if ep.isBulk && ep.isIn then [ep.bEndpointAddress] else [] := by
  rw [bulkIns, List.filter_append, List.map_append, List.filter_singleton]
  cases ep.isBulk && ep.isIn <;> rfl

theorem foldl_selectEndpoint (endpoints : List Endpoint) (daemon : Daemon) :
    endpoints.foldl selectEndpoint { daemon := daemon } =
      { epIn := (bulkIns endpoints).headD 0
        epIn2 := (bulkIns endpoints).tail.headD 0
        epOut := if endpoints.any Endpoint.isGip then 0x08 else 0
        daemon := daemon } := by
  induction endpoints using List.reverseRecOn with
  | nil => rfl
  | append_singleton endpoints ep ih =>
      rw [List.foldl_concat, ih, bulkIns_concat, List.any_append, List.any_cons, List.any_nil,
        Bool.or_false, selectEndpoint]
      cases hbulk : ep.isBulk with
      | false => simp [Endpoint.isGip, hbulk]
      | true =>
          cases hin : ep.isIn with
          | false => by_cases haddr : ep.bEndpointAddress = 0x08 <;>
              simp [Endpoint.isGip, hbulk, hin, haddr]
          | true =>
              have hgip : ep.isGip = false := by simp [Endpoint.isGip, hin]
              -- the first two addresses are kept: none of them is 0, which stands for no endpoint
              cases hins : bulkIns endpoints with
              | nil => simp [hgip]
              | cons first rest =>
                  have hfirst : first ≠ 0 := bulkIns_ne_zero (hins ▸ List.mem_cons_self)
                  cases rest with
                  | nil => simp [hgip, hfirst]
                  | cons second rest =>
                      have hsecond : second ≠ 0 :=
                        bulkIns_ne_zero (hins ▸ List.mem_cons_of_mem _ List.mem_cons_self)
                      simp [hgip, hfirst, hsecond]

theorem walkEndpoints_eq (config : ConfigDescriptor) (daemon : Daemon) :
    walkEndpoints config { daemon := daemon } =
      { epIn := (bulkIns config.flatten.flatten).headD 0
        epIn2 := (bulkIns config.flatten.flatten).tail.headD 0
        epOut := if config.flatten.flatten.any Endpoint.isGip then 0x08 else 0
        daemon := daemon } := by
  rw [← foldl_selectEndpoint, List.foldl_flatten, List.foldl_flatten]
  rfl

theorem findEndpoints_ends :
    Attempt.Meets (HasDongle g b true) (findEndpoints outside)
      (Ends b fun s =>
        HasDongle (walkEndpoints outside.config g) b true s ∧
          (walkEndpoints outside.config g).epIn ≠ 0 ∧
          (walkEndpoints outside.config g).epOut ≠ 0) := by
  intro s hdongle
  obtain ⟨handle, hheld⟩ := hdongle
  have hlive := hheld.live rfl
  unfold findEndpoints
  cases hmade : s.outcome outside with
  | false =>
      exact ⟨g, some handle, true, hheld.call _ rfl rfl (Phase.allow_eq ⟨hlive, rfl⟩ _) rfl rfl⟩
  | true =>
      have hasked := hheld.call (.getConfigDescriptor s.dev true) rfl rfl
        (Phase.allow_eq ⟨hlive, rfl⟩ _) rfl rfl
      have hfreed := hasked.call .freeConfigDescriptor rfl rfl
        (Phase.allow_eq rfl _) rfl rfl
      have hfound : Held true (walkEndpoints outside.config g) (.idle b (some handle) true)
          { (s.call (.getConfigDescriptor s.dev true)).call .freeConfigDescriptor with
            globals := walkEndpoints outside.config s.globals } :=
        ⟨⟨hfreed.tracks.accepted, by rw [hheld.tracks.globals], hfreed.tracks.dev,
          hfreed.tracks.socket⟩, hfreed.threads⟩
      dsimp only
      rw [if_pos rfl, hheld.tracks.globals]
      rw [hheld.tracks.globals] at hfound
      split
      next hboth => exact ⟨⟨handle, hfound⟩, hboth⟩
      next => exact ⟨_, some handle, true, hfound⟩

/-! ## Firmware -/

/-- The file is closed on every way, and the buffer is there just if it is returned. -/
theorem mt76LoadFirmware_held (outside : Outside) {handle : Handle} {s : State}
    (hheld : Held true g (.idle b (some handle) true) s) :
    (mt76LoadFirmware outside s).1 = none ∧
        Held true g (.idle b (some handle) true) (mt76LoadFirmware outside s).2 ∨
      (mt76LoadFirmware outside s).1 = some outside.firmwareFile ∧
        Held true g { Phase.idle b (some handle) true with buffer := true }
          (mt76LoadFirmware outside s).2 ∧
        xoneFwMinSize ≤ outside.firmwareFile.length := by
  unfold mt76LoadFirmware
  cases hfile : s.outcome outside with
  | false => exact Or.inl ⟨rfl, hheld.call _ rfl rfl rfl rfl rfl⟩
  | true =>
      have hopened := hheld.call (.openFile true) rfl rfl rfl rfl rfl
      simp only [Bool.not_true, Bool.false_eq_true, if_false]
      split
      · exact Or.inl ⟨rfl, hopened.call _ rfl rfl rfl rfl rfl⟩
      next hsize =>
        cases hbuf : (s.call (.openFile true)).outcome outside with
        | false =>
            have hrefused := hopened.call (.malloc false) rfl rfl rfl rfl rfl
            exact Or.inl ⟨rfl, hrefused.call _ rfl rfl rfl rfl rfl⟩
        | true =>
            have hmalloc := hopened.call (.malloc true) rfl rfl rfl rfl rfl
            simp only [Bool.not_true, Bool.false_eq_true, if_false]
            cases hread : ((s.call (.openFile true)).call (.malloc true)).outcome outside with
            | false =>
                have hfailed := hmalloc.call (.readFile false) rfl rfl rfl rfl rfl
                have hfreed := hfailed.call .free rfl rfl rfl rfl rfl
                exact Or.inl ⟨rfl, hfreed.call _ rfl rfl rfl rfl rfl⟩
            | true =>
                have hloaded := hmalloc.call (.readFile true) rfl rfl rfl rfl rfl
                exact Or.inr ⟨rfl, hloaded.call _ rfl rfl rfl rfl rfl, Nat.not_lt.mp hsize⟩

/-- The dongle is open and claimed, and the daemon has started on it. -/
def Booted (outside : Outside) (g : Globals) (b : Bool) (s : State) : Prop :=
  ∃ handle daemon, Held true { g with daemon := daemon } (.idle b (some handle) true) s ∧
    Boots (outside.world handle.product b) daemon ∧
    (handle.product = .v3 → xoneFwMinSize ≤ outside.firmwareFile.length)

/-- An adapter without an upload has started when its endpoints are known. -/
theorem boots_plain {product : Pid} (hproduct : product ≠ .v3) :
    Boots (outside.world product b) (mainStart (outside.world .v1 b)) := by
  refine ⟨0, ?_⟩
  cases product with
  | v1 => rfl
  | v2 => rfl
  | v3 => exact absurd rfl hproduct

theorem boots_uploaded {rounds : Nat} {usb : UsbLog} {daemon : Daemon}
    (hupload : mt76UploadFwDma outside.dongle outside.env.forceReload outside.firmwareFile
      rounds [] = some (0, usb))
    (hradio : radioStart (outside.world .v3 b) usb (mainStart (outside.world .v1 b)) =
      some daemon) : Boots (outside.world .v3 b) daemon := by
  refine ⟨rounds, ?_⟩
  have hinit : mainInit (outside.world .v3 b) rounds =
      (mt76UploadFwDma outside.dongle outside.env.forceReload outside.firmwareFile rounds []).bind
        fun uploaded =>
          if uploaded.1 ≠ 0 then none
          else radioStart (outside.world .v3 b) uploaded.2 (mainStart (outside.world .v3 b)) :=
    rfl
  rw [hinit, hupload, Option.bind_some, if_neg (not_not.mpr rfl)]
  exact hradio

theorem startRadio_ends (hstart : g.daemon = mainStart (outside.world .v1 b)) {rounds : Nat}
    {usb : UsbLog}
    (hupload : mt76UploadFwDma outside.dongle outside.env.forceReload outside.firmwareFile
      rounds [] = some (0, usb)) (hsize : xoneFwMinSize ≤ outside.firmwareFile.length)
    {handle : Handle} (hproduct : handle.product = .v3) :
    Attempt.Meets (Held true g (.idle b (some handle) true)) (startRadio outside usb)
      (Ends b (Booted outside g b)) := by
  intro s hheld
  have hslept := hheld.call .sleep rfl rfl rfl rfl rfl
  have hsent := hslept.call (.transfers s.dev) rfl rfl
    (Phase.allow_eq ⟨hheld.live rfl, rfl⟩ _) rfl rfl
  have hsocket : s.socket = b := hheld.tracks.socket
  unfold startRadio
  rw [hsocket, hheld.tracks.globals, hstart]
  cases hradio : radioStart (outside.world .v3 b) usb (mainStart (outside.world .v1 b)) with
  | none => exact ⟨g, some handle, true, hsent⟩
  | some daemon =>
      have hsettled := hsent.call .sleep rfl rfl rfl rfl rfl
      refine ⟨handle, daemon, ⟨⟨hsettled.tracks.accepted, rfl, hsettled.tracks.dev,
        hsettled.tracks.socket⟩, hsettled.threads⟩, ?_, fun _ => hsize⟩
      rw [hproduct]
      exact boots_uploaded hupload hradio

theorem uploadFirmware_ends (hstart : g.daemon = mainStart (outside.world .v1 b)) (rounds : Nat) :
    Attempt.Meets (HasDongle g b true) (uploadFirmware outside rounds)
      (Ends b (Booted outside g b)) := by
  intro s hdongle
  obtain ⟨handle, hheld⟩ := hdongle
  have hasked := hheld.call (.getDeviceDescriptor s.dev) rfl rfl
    (Phase.allow_eq (hheld.live rfl) _) rfl rfl
  have hdev : s.dev = some handle := hheld.tracks.dev
  unfold uploadFirmware
  rw [hdev] at hasked ⊢
  dsimp only
  split
  next hproduct =>
    have hv3 : handle.product = .v3 := Option.some.inj hproduct
    rcases mt76LoadFirmware_held outside hasked with
      ⟨hnone, hidle⟩ | ⟨hsome, hbuffer, hsize⟩
    · rw [hnone]
      exact ⟨g, some handle, true, hidle⟩
    · have hsent := hbuffer.call (.transfers (some handle)) rfl rfl
        (Phase.allow_eq ⟨⟨Option.some_ne_none handle, rfl⟩, rfl⟩ _) rfl rfl
      have hfreed := hsent.call .free rfl rfl (Phase.allow_eq rfl _) rfl rfl
      rw [hsome]
      dsimp only
      cases hupload : mt76UploadFwDma outside.dongle outside.env.forceReload outside.firmwareFile
          rounds [] with
      | none => exact ⟨true, g, _, hsent⟩
      | some uploaded =>
          obtain ⟨rc, usb⟩ := uploaded
          dsimp only
          split
          · exact ⟨g, some handle, true, hfreed⟩
          next hrc =>
            rw [not_not.mp hrc] at hupload
            exact startRadio_ends hstart hupload hsize hv3 _ hfreed
  next hother =>
    refine ⟨handle, g.daemon, hasked, ?_, fun hv3 => absurd (congrArg some hv3) hother⟩
    rw [hstart]
    exact boots_plain fun hv3 => hother (congrArg some hv3)

/-! ## The reader threads -/

theorem all_fine (log : List Call) :
    log.all Call.fine = (log.all Call.listed && log.all Call.started) := by
  induction log with
  | nil => rfl
  | cons call rest ih =>
      simp only [List.all_cons, ih, Call.fine]
      cases call.listed <;> cases call.started <;> simp

/-- If all threads were started, only a list that could not be made is out of place. -/
theorem Held.settled {phase : Phase} {s : State} (hheld : Held true g phase s) :
    Tracks Call.fine g phase s where
  accepted := by
    unfold Accepts
    rw [all_fine, hheld.threads, Bool.and_true]
    exact hheld.tracks.accepted
  globals := hheld.tracks.globals
  dev := hheld.tracks.dev
  socket := hheld.tracks.socket

theorem Held.create {started : Bool} {phase : Phase} {s : State} (hheld : Held started g phase s)
    (thread : Thread) (ep : UInt8) (ok : Bool) (hclaimed : phase.claimed = true)
    (hnone : phase.reader thread = false) :
    Held (ok && started) g (phase.setReader ok thread) (s.call (.createThread thread ep ok)) where
  tracks := hheld.tracks.call _ rfl (Phase.allow_eq ⟨hclaimed, hnone⟩ _) (by cases thread <;> rfl)
    (by cases thread <;> rfl)
  threads := by
    rw [State.call, List.all_cons, hheld.threads]
    rfl

/-- The threads that were started read. -/
def Serving (g : Globals) (b : Bool) (handle : Handle) (s : State) : Prop :=
  ∃ first second, (g.epIn2 = 0 → second = true) ∧
    Held (second && first) g
      { Phase.idle b (some handle) true with
        reader1 := first, reader2 := second && g.epIn2 != 0 } s

theorem startReaderThreads_serving (outside : Outside) {handle : Handle} {s : State}
    (hheld : Held true g (.idle b (some handle) true) s) :
    Serving g b handle (startReaderThreads outside s) := by
  have hglobals : s.globals = g := hheld.tracks.globals
  have hfirst := hheld.create .reader1 g.epIn (s.outcome outside) rfl rfl
  unfold startReaderThreads
  rw [hglobals]
  by_cases hep : g.epIn2 = 0
  · refine ⟨s.outcome outside, true, fun _ => rfl, ?_⟩
    rw [if_neg (not_not.mpr hep), hep]
    rw [Bool.and_true] at hfirst
    exact hfirst
  · have hsecond := hfirst.create .reader2 g.epIn2
      (State.outcome outside (s.call (.createThread .reader1 g.epIn (s.outcome outside))))
      rfl rfl
    refine ⟨s.outcome outside,
      State.outcome outside (s.call (.createThread .reader1 g.epIn (s.outcome outside))),
      fun hzero => absurd hzero hep, ?_⟩
    rw [if_pos hep, bne_iff_ne.mpr hep, Bool.and_true]
    rw [Bool.and_true] at hsecond
    exact hsecond

theorem Serving.second {handle : Handle} {s : State} (hserving : Serving g b handle s) :
    Serving g b handle ((s.call .sleep).call (.transfers s.dev)) := by
  obtain ⟨first, second, hsecond, hheld⟩ := hserving
  have hslept := hheld.call .sleep rfl rfl rfl rfl rfl
  exact ⟨first, second, hsecond,
    hslept.call _ rfl rfl (Phase.allow_eq ⟨hheld.live rfl, rfl⟩ _) rfl rfl⟩

theorem joinThreads_tracks {handle : Handle} {s : State} (hserving : Serving g b handle s) :
    Tracks Call.fine g (.idle b (some handle) true) (joinThreads s) := by
  obtain ⟨first, second, hsecond, hheld⟩ := hserving
  have hglobals : s.globals = g := hheld.tracks.globals
  unfold joinThreads
  rw [hglobals]
  cases first with
  | false =>
      have hjoin : accept Phase.next {} (Call.joinThread .reader1 :: s.log).reverse = none :=
        accept_rejected _ fun later hlater => by
          rw [hheld.tracks.accepted.eq hlater]
          rfl
      have hbad : s.log.all Call.fine = false := by
        rw [all_fine, hheld.threads, Bool.and_false, Bool.and_false]
      split
      · have hboth : accept Phase.next {}
            (Call.joinThread .reader2 :: Call.joinThread .reader1 :: s.log).reverse = none :=
          accept_rejected _ fun later hlater => nomatch hjoin.symm.trans hlater
        exact ⟨.of_rejected Call.fine hboth hbad _, hglobals, hheld.tracks.dev,
          hheld.tracks.socket⟩
      · exact ⟨.of_rejected Call.fine hjoin hbad _, hglobals, hheld.tracks.dev,
          hheld.tracks.socket⟩
  | true =>
      have hjoined := hheld.call (.joinThread .reader1) rfl rfl rfl rfl rfl
      cases second with
      | false =>
          have hep : g.epIn2 ≠ 0 := fun hzero => Bool.false_ne_true (hsecond hzero)
          have hbad : s.log.all Call.fine = false := by
            rw [all_fine, hheld.threads, Bool.false_and, Bool.and_false]
          have hboth : accept Phase.next {}
              (Call.joinThread .reader2 :: Call.joinThread .reader1 :: s.log).reverse = none :=
            accept_rejected _ fun later hlater => by
              rw [hjoined.tracks.accepted.eq hlater]
              rfl
          rw [if_pos hep]
          exact ⟨.of_rejected Call.fine hboth hbad _, hglobals, hheld.tracks.dev,
            hheld.tracks.socket⟩
      | true =>
          by_cases hep : g.epIn2 = 0
          · rw [hep] at hjoined
            rw [if_neg (not_not.mpr hep)]
            exact hjoined.settled
          · rw [bne_iff_ne.mpr hep] at hjoined
            rw [if_pos hep]
            exact (hjoined.call (.joinThread .reader2) rfl rfl rfl rfl rfl).settled

theorem serve_serving {handle : Handle} (rounds : Nat) :
    Attempt.Meets (Serving g b handle) (serve outside rounds)
      (Ends b (Serving g b handle)) := by
  induction rounds with
  | zero =>
      intro s hserving
      obtain ⟨first, second, -, hheld⟩ := hserving
      exact ⟨_, g, _, hheld⟩
  | succ rounds ih =>
      intro s hserving
      unfold serve
      split
      · exact ih _ hserving.second
      · exact hserving

/-! ## `main` -/

/-- How `main` can stand when its stages have ended: they leave to cleanup what it gives back. -/
def Stands (b : Bool) : Exit → State → Prop
  | .reached, s => ∃ g handle claimed, Tracks Call.fine g (.idle b handle claimed) s
  | .cleanup, s => ∃ g handle claimed, Tracks Call.fine g (.idle b handle claimed) s
  | .failed, s => Held true {} { socket := b } s
  | .waiting, s => ∃ started g phase, Held started g phase s

theorem Ends.stands {Q : State → Prop} {code : Exit} {s : State} (hcode : code ≠ .reached)
    (hends : Ends b Q code s) : Stands b code s := by
  cases code with
  | reached => exact absurd rfl hcode
  | cleanup =>
      obtain ⟨g, handle, claimed, hheld⟩ := hends
      exact ⟨g, handle, claimed, hheld.settled⟩
  | failed => exact hends
  | waiting => exact hends

theorem Ends.imp {Q R : State → Prop} {code : Exit} {s : State} (hends : Ends b Q code s)
    (himp : Q s → R s) : Ends b R code s := by
  cases code with
  | reached => exact himp hends
  | cleanup => exact hends
  | failed => exact hends
  | waiting => exact hends

/-- What the daemon starts from once `find_endpoints` has run. -/
def Outside.endpoints (outside : Outside) (b : Bool) : Globals :=
  walkEndpoints outside.config { daemon := mainStart (outside.world .v1 b) }

/-- The stages before the reader threads leave the dongle open, and a daemon that has started. -/
theorem setUp_ends (hsocket : Held true {} { socket := b } (initEventUdpFromEnv outside {}))
    (rounds : Nat) :
    Attempt.Meets (· = {}) (setUp outside rounds)
      (Ends b fun s => Booted outside (outside.endpoints b) b s ∧
        (outside.endpoints b).epIn ≠ 0 ∧ (outside.endpoints b).epOut ≠ 0) := by
  have hdaemon : (outside.endpoints b).daemon = mainStart (outside.world .v1 b) := by
    rw [Outside.endpoints, walkEndpoints_eq]
  refine Ends.andThen (step_ends fun s hs => hs ▸ hsocket) (Ends.andThen initUsb_ends ?_)
  refine Ends.andThen (step_ends fun s hs => probeHid_held (listUsbDevices_held hs)) ?_
  refine Ends.andThen (waitForDongle_ends rounds) (Ends.andThen checkRunning_ends ?_)
  refine Ends.andThen resetDongle_ends ?_
  refine Ends.andThen (step_ends fun s hs => detachKernelDriver_held hs) ?_
  refine Ends.andThen claimInterface_ends (Ends.andThen findEndpoints_ends ?_)
  have hupload : Attempt.Meets
      (fun s => HasDongle (outside.endpoints b) b true s ∧
        (outside.endpoints b).epIn ≠ 0 ∧ (outside.endpoints b).epOut ≠ 0)
      (uploadFirmware outside rounds)
      (Ends b fun s => Booted outside (outside.endpoints b) b s ∧
        (outside.endpoints b).epIn ≠ 0 ∧ (outside.endpoints b).epOut ≠ 0) :=
    fun s hs => (uploadFirmware_ends hdaemon rounds s hs.1).imp fun hbooted => ⟨hbooted, hs.2⟩
  refine Ends.andThen hupload (step_ends fun s hs => ⟨?_, hs.2⟩)
  obtain ⟨handle, daemon, hheld, hboots⟩ := hs.1
  exact ⟨handle, daemon, hheld.call _ rfl rfl (Phase.allow_eq ⟨hheld.live rfl, rfl⟩ _) rfl rfl,
    hboots⟩

theorem readLoop_stands {handle : Handle} (rounds : Nat) :
    Attempt.Meets (Held true g (.idle b (some handle) true)) (readLoop outside rounds)
      (Stands b) := by
  have hstart : Attempt.Meets (Held true g (.idle b (some handle) true))
      (step fun s => (startReaderThreads outside s).call .sleep) (Ends b (Serving g b handle)) := by
    refine step_ends fun s hs => ?_
    obtain ⟨first, second, hsecond, hheld⟩ := startReaderThreads_serving outside hs
    exact ⟨first, second, hsecond, hheld.call _ rfl rfl rfl rfl rfl⟩
  refine Attempt.Meets.andThen hstart ?_ fun code s hcode hs => hs.stands hcode
  refine Attempt.Meets.andThen (serve_serving rounds) ?_ fun code s hcode hs => hs.stands hcode
  exact fun s hs => ⟨g, some handle, true, joinThreads_tracks hs⟩

/-- Cleanup gives back what the globals hold; releasing an interface that was not claimed is
refused without harm. -/
theorem cleanup_accepts {handle : Option Handle} {s : State}
    (htracks : Tracks Call.fine g (.idle b handle claimed) s) :
    Accepts Call.fine {} (cleanup s).log := by
  have hdev : s.dev = handle := htracks.dev
  have hsocket : s.socket = b := htracks.socket
  have hclosed : Accepts Call.fine (.idle b none false)
      (if handle.isSome then (s.call (.releaseInterface handle)).call (.closeDevice handle)
        else s).log := by
    cases handle with
    | none => exact htracks.accepted
    | some handle =>
        have hlive : (Phase.idle b (some handle) claimed).Live (some handle) :=
          ⟨Option.some_ne_none handle, rfl⟩
        -- the interface goes back while the device is open, the device after it
        have hreleased := htracks.accepted.call (.releaseInterface (some handle)) rfl
          (Phase.allow_eq ⟨hlive, rfl, rfl⟩ _)
        exact hreleased.call (.closeDevice (some handle)) rfl
          (Phase.allow_eq ⟨hlive, rfl, rfl⟩ _)
  unfold cleanup
  rw [hdev, hsocket]
  cases b with
  | true => exact (hclosed.call .closeSocket rfl rfl).call .usbExit rfl rfl
  | false => exact hclosed.call .usbExit rfl rfl

theorem main_stands (outside : Outside) (rounds : Nat) :
    ∃ b, Stands b ((setUp outside rounds).andThen .reached (readLoop outside rounds) {}).1
      ((setUp outside rounds).andThen .reached (readLoop outside rounds) {}).2 := by
  obtain ⟨b, hsocket⟩ := initEventUdpFromEnv_held outside
  refine ⟨b, Attempt.Meets.andThen (setUp_ends hsocket rounds) (fun s hs => ?_)
    (fun code s hcode hs => hs.stands hcode) {} rfl⟩
  obtain ⟨⟨handle, daemon, hheld, -, -⟩, -⟩ := hs
  exact readLoop_stands rounds s hheld

/-! ## Signals -/

/-- A signal comes before call number `n`, and `g_running` stays cleared. -/
def Outside.StopsAfter (outside : Outside) (n : Nat) : Prop :=
  ∀ log : List Call, n ≤ log.length → outside.running log = false

theorem Outside.StopsAfter.before {n : Nat} (hstop : outside.StopsAfter n) {s : State}
    (hrunning : s.running outside = true) : s.log.length < n := by
  by_contra hlate
  have hstopped : s.running outside = false := hstop s.log (Nat.not_lt.mp hlate)
  rw [hrunning] at hstopped
  cases hstopped

/-- The stage has come to an end. -/
def Over (code : Exit) (_ : State) : Prop :=
  code ≠ .waiting

theorem Over.andThen {first second : Stage} (hfirst : Attempt.Meets (fun _ => True) first Over)
    (hsecond : Attempt.Meets (fun _ => True) second Over) :
    Attempt.Meets (fun _ => True) (first.andThen .reached second) Over :=
  Attempt.Meets.andThen hfirst (fun s _ => hsecond s trivial) fun _ _ _ hover => hover

theorem step_over (f : State → State) : Attempt.Meets (fun _ => True) (step f) Over :=
  fun _ _ hwaiting => nomatch hwaiting

theorem openFirst_length (products : List Pid) (s : State) :
    s.log.length ≤ (openFirst outside products s).2.log.length := by
  induction products generalizing s with
  | nil => exact Nat.le_refl _
  | cons product rest ih =>
      unfold openFirst
      split
      · exact Nat.le_succ _
      · exact Nat.le_trans (Nat.le_succ s.log.length) (ih (s.call (.openDevice product none)))

/-- Each round makes a call, so the signal comes in time. -/
theorem waitForDongle_over {n rounds : Nat} (hstop : outside.StopsAfter n) (hn : n < rounds) :
    Attempt.Meets (fun _ => True) (waitForDongle outside rounds) Over := by
  suffices hloop : ∀ rounds s, rounds ≠ 0 → n < rounds + s.log.length →
      (waitForDongle outside rounds s).1 ≠ .waiting from
    fun s _ => hloop rounds s (Nat.ne_zero_of_lt hn) (Nat.lt_add_right _ hn)
  intro rounds
  induction rounds with
  | zero => exact fun s hrounds => absurd rfl hrounds
  | succ rounds ih =>
      intro s _ hn
      unfold waitForDongle
      cases hrunning : s.running outside with
      | false => exact fun hwaiting => nomatch hwaiting
      | true =>
          have hbefore := hstop.before hrunning
          have hlonger : s.log.length ≤ (openDongle outside s).log.length :=
            openFirst_length [.v1, .v2, .v3] s
          simp only [if_true]
          split
          · exact fun hwaiting => nomatch hwaiting
          · refine ih _ (by omega) ?_
            change n < rounds + ((openDongle outside s).log.length + 1 + 1 + 1)
            omega

theorem serve_over {n rounds : Nat} (hstop : outside.StopsAfter n) (hn : n < rounds) :
    Attempt.Meets (fun _ => True) (serve outside rounds) Over := by
  suffices hloop : ∀ rounds s, rounds ≠ 0 → n < rounds + s.log.length →
      (serve outside rounds s).1 ≠ .waiting from
    fun s _ => hloop rounds s (Nat.ne_zero_of_lt hn) (Nat.lt_add_right _ hn)
  intro rounds
  induction rounds with
  | zero => exact fun s hrounds => absurd rfl hrounds
  | succ rounds ih =>
      intro s _ hn
      unfold serve
      cases hrunning : s.running outside with
      | false => exact fun hwaiting => nomatch hwaiting
      | true =>
          have hbefore := hstop.before hrunning
          -- a round makes two calls, so the signal comes before the rounds run out
          refine ih _ (by omega) ?_
          change n < rounds + (s.log.length + 1 + 1)
          omega

theorem mt76LoadFirmware_some (outside : Outside) (s : State) :
    (mt76LoadFirmware outside s).1 = none ∨
      (mt76LoadFirmware outside s).1 = some outside.firmwareFile := by
  unfold mt76LoadFirmware
  dsimp only
  split_ifs
  all_goals first
    | exact Or.inl rfl
    | exact Or.inr rfl

/-- A stage that branches only on outcomes. -/
theorem ite_over {allowed : Prop} [Decidable allowed] {first second : Exit} (s : State)
    (hfirst : first ≠ .waiting) (hsecond : second ≠ .waiting) :
    Over (if allowed then first else second) s := by
  split
  · exact hfirst
  · exact hsecond

theorem resetDongle_over : Attempt.Meets (fun _ => True) (resetDongle outside) Over := by
  intro s _
  unfold resetDongle
  dsimp only
  split
  · split
    · exact ite_over _ (by decide) (by decide)
    · exact fun hwaiting => nomatch hwaiting
  · exact fun hwaiting => nomatch hwaiting

theorem findEndpoints_over : Attempt.Meets (fun _ => True) (findEndpoints outside) Over := by
  intro s _
  unfold findEndpoints
  dsimp only
  split
  · exact ite_over _ (by decide) (by decide)
  · exact fun hwaiting => nomatch hwaiting

theorem uploadFirmware_over {rounds : Nat}
    (hupload : (mt76UploadFwDma outside.dongle outside.env.forceReload outside.firmwareFile
      rounds []).isSome) :
    Attempt.Meets (fun _ => True) (uploadFirmware outside rounds) Over := by
  intro s _
  obtain ⟨uploaded, huploaded⟩ := Option.isSome_iff_exists.mp hupload
  unfold uploadFirmware
  dsimp only
  split
  · rcases mt76LoadFirmware_some outside (s.call (.getDeviceDescriptor s.dev)) with hnone | hsome
    · rw [hnone]
      exact fun hwaiting => nomatch hwaiting
    · rw [hsome]
      dsimp only
      rw [huploaded]
      dsimp only
      split
      · exact fun hwaiting => nomatch hwaiting
      · unfold startRadio
        dsimp only
        split
        · exact fun hwaiting => nomatch hwaiting
        · exact fun hwaiting => nomatch hwaiting
  · exact fun hwaiting => nomatch hwaiting

theorem main_over {n rounds : Nat} (hstop : outside.StopsAfter n) (hn : n < rounds)
    (hupload : (mt76UploadFwDma outside.dongle outside.env.forceReload outside.firmwareFile
      rounds []).isSome) :
    ((setUp outside rounds).andThen .reached (readLoop outside rounds) {}).1 ≠ .waiting := by
  refine Over.andThen (Over.andThen (step_over _) ?_) ?_ {} trivial
  · refine Over.andThen (fun s _ => ite_over _ (by decide) (by decide)) ?_
    refine Over.andThen (step_over _) (Over.andThen (waitForDongle_over hstop hn) ?_)
    refine Over.andThen (fun s _ => ite_over _ (by decide) (by decide)) ?_
    refine Over.andThen resetDongle_over (Over.andThen (step_over _) ?_)
    refine Over.andThen (fun s _ => ite_over _ (by decide) (by decide)) ?_
    refine Over.andThen findEndpoints_over (Over.andThen (uploadFirmware_over hupload) ?_)
    exact step_over _
  · exact Over.andThen (step_over _) (Over.andThen (serve_over hstop hn) (step_over _))

/-- The event stream is on only with an address and a port that can be used. -/
theorem initEventUdpFromEnv_socket
    (hsocket : (initEventUdpFromEnv outside {}).socket = true) :
    ∃ ip port, outside.xboxEventUdp.bind eventTarget = some (ip, port) ∧
      1 ≤ port ∧ port ≤ 65535 ∧ outside.inetPton ip = true := by
  unfold initEventUdpFromEnv at hsocket
  split at hsocket
  · cases hsocket
  next ip port htarget =>
    dsimp only at hsocket
    split at hsocket
    · cases hsocket
    next hport =>
      split at hsocket
      · cases hsocket
      · split at hsocket
        · cases hsocket
        next hip =>
          refine ⟨ip, port, htarget, by omega, by omega, ?_⟩
          simpa using hip

/-- When `main` gets to its reader threads, the dongle is open, the daemon has started on it,
after an upload of a file of at least 32 KiB where the adapter takes one; the threads read the
first two bulk endpoints into the host in the order of the descriptor, and commands go out on
0x08. -/
theorem main_boots (outside : Outside) (rounds : Nat)
    (hreached : (setUp outside rounds {}).1 = .reached) :
    let s := (setUp outside rounds {}).2
    let endpoints := outside.config.flatten.flatten
    (∃ handle, s.dev = some handle ∧
      Boots (outside.world handle.product s.socket) s.globals.daemon ∧
      (handle.product = .v3 → xoneFwMinSize ≤ outside.firmwareFile.length)) ∧
    bulkIns endpoints = s.globals.epIn :: (bulkIns endpoints).tail ∧
    s.globals.epIn2 = (bulkIns endpoints).tail.headD 0 ∧
    s.globals.epOut = 0x08 ∧ endpoints.any Endpoint.isGip = true ∧
    (s.socket = true → ∃ ip port, outside.xboxEventUdp.bind eventTarget = some (ip, port) ∧
      1 ≤ port ∧ port ≤ 65535 ∧ outside.inetPton ip = true) := by
  intro s endpoints
  obtain ⟨b, hsocket⟩ := initEventUdpFromEnv_held outside
  have hends := setUp_ends hsocket rounds {} rfl
  rw [hreached] at hends
  obtain ⟨⟨handle, daemon, hheld, hboots, hsize⟩, hin, hout⟩ := hends
  have hglobals : s.globals = { outside.endpoints b with daemon := daemon } := hheld.tracks.globals
  have hb : s.socket = b := hheld.tracks.socket
  have hwalked := walkEndpoints_eq outside.config (mainStart (outside.world .v1 b))
  rw [Outside.endpoints, hwalked] at hin hout hglobals
  have hgip : endpoints.any Endpoint.isGip = true := by
    -- `setUp` goes on only with an output endpoint, which comes with the GIP one
    by_contra hnone
    exact hout (if_neg hnone)
  rw [hglobals, hb]
  refine ⟨⟨handle, hheld.tracks.dev, hboots, hsize⟩, ?_, rfl, if_pos hgip, hgip, fun htrue => ?_⟩
  · cases hins : bulkIns endpoints with
    | nil => exact absurd (congrArg (List.headD · 0) hins) hin
    | cons first rest => rfl
  · exact initEventUdpFromEnv_socket (hsocket.tracks.socket.trans htrue)

/-- An old adapter, the event stream to the port of the other programs, and a signal after some
time; every call succeeds. -/
def plainOutside : Outside where
  dongle := romDongle plainRom
  host := ⟨fun _ _ _ => true⟩
  xboxEventUdp := some "127.0.0.1:7947".toList
  inetPton ip := ip = "127.0.0.1".toList
  succeeds _ := true
  running log := log.length < 100
  config := [[[⟨2, 0x84⟩, ⟨2, 0x85⟩, ⟨2, 0x04⟩, ⟨2, 0x08⟩]]]
  firmwareFile := []

theorem main_boots_plainOutside :
    ∃ handle, (setUp plainOutside 1 {}).2.dev = some handle ∧
      Boots (plainOutside.world handle.product (setUp plainOutside 1 {}).2.socket)
        (setUp plainOutside 1 {}).2.globals.daemon ∧
      (handle.product = .v3 → xoneFwMinSize ≤ plainOutside.firmwareFile.length) :=
  (main_boots plainOutside 1 (by decide)).1

/-- What is still open when `main` returns: after `return 1` the event socket. -/
def leftOpen : Exit × State → Phase
  | (.failed, s) => { socket := s.socket }
  | _ => {}

theorem Stands.returned {code : Exit} {s : State} (hstands : Stands b code s)
    (hover : (finish (code, s)).1 ≠ .waiting) :
    Accepts Call.fine (leftOpen (finish (code, s))) (finish (code, s)).2.log := by
  cases code with
  | reached =>
      obtain ⟨g, handle, claimed, htracks⟩ := hstands
      exact cleanup_accepts htracks
  | cleanup =>
      obtain ⟨g, handle, claimed, htracks⟩ := hstands
      exact cleanup_accepts htracks
  -- `return 1` cleans nothing up, so only the socket may be left open here
  | failed =>
      have hsocket : s.socket = b := hstands.tracks.socket
      have hsettled := hstands.settled.accepted
      rw [← hsocket] at hsettled
      exact hsettled
  | waiting => exact absurd rfl hover

theorem Stands.waits {code : Exit} {s : State} (hstands : Stands b code s)
    (hwaiting : (finish (code, s)).1 = .waiting)
    (hfine : (finish (code, s)).2.log.all Call.fine = true) :
    ∃ phase, accept Phase.next {} (finish (code, s)).2.log.reverse = some phase := by
  cases code with
  | reached => cases hwaiting
  | cleanup => cases hwaiting
  | failed => cases hwaiting
  | waiting =>
      obtain ⟨started, g, phase, hheld⟩ := hstands
      have hlisted : s.log.all Call.listed = true := by
        rw [finish, all_fine, Bool.and_eq_true] at hfine
        exact hfine.1
      have haccepted := hheld.tracks.accepted
      unfold Accepts at haccepted
      rw [hlisted, if_pos rfl] at haccepted
      exact ⟨phase, haccepted⟩

theorem finish_over {ended : Exit × State} (hover : ended.1 ≠ .waiting) :
    (finish ended).1 ≠ .waiting := by
  obtain ⟨code, s⟩ := ended
  cases code with
  | reached => exact fun hwaiting => nomatch hwaiting
  | cleanup => exact fun hwaiting => nomatch hwaiting
  | failed => exact fun hwaiting => nomatch hwaiting
  | waiting => exact absurd rfl hover

/-- `main` opens nothing twice, uses nothing that is not open and has given back everything when
it returns (after `return 1` the event socket is left), whatever happens outside, unless a device
list could not be made, which is given back all the same, or a thread not started, which is
joined all the same. A signal makes it return. -/
theorem main_gives_back (outside : Outside) (rounds : Nat) :
    let ended := main outside rounds
    (ended.1 ≠ .waiting → accept Phase.next {} ended.2.log.reverse =
        if ended.2.log.all Call.fine then some (leftOpen ended) else none) ∧
      (ended.1 = .waiting → ended.2.log.all Call.fine = true →
        ∃ phase, accept Phase.next {} ended.2.log.reverse = some phase) ∧
      ∀ n < rounds, outside.StopsAfter n →
        (mt76UploadFwDma outside.dongle outside.env.forceReload outside.firmwareFile
          rounds []).isSome → ended.1 ≠ .waiting := by
  obtain ⟨b, hstands⟩ := main_stands outside rounds
  refine ⟨hstands.returned, hstands.waits, fun n hn hstop hupload => ?_⟩
  exact finish_over (main_over hstop hn hupload)

end

end XoneDarwin.Launch
