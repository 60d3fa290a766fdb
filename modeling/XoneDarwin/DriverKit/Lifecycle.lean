import XoneDarwin.DriverKit.Calls
import XoneDarwin.DriverKit.ReadLoop
import XoneDarwin.Machine.Ledger

/-!
# From `Start` to `Stop`

What the driver takes and gives back over its life, however the calls to DriverKit go:
`Start` with its setup stages, the completed reads, `Stop`.
-/

namespace XoneDarwin.DriverKit

open Machine (Attempt Entry Ledger accept run)

/-- `kIOReturnNotFound`. -/
def kIoReturnNotFound : IoReturn := .error 0xe00002f0

/-- What references are counted of: the objects of the members, those of local variables, and
the sessions that `Open` begins and `Close` ends. -/
inductive Resource
  | mDevice
  | mQueue
  | mInterface
  | mBulkInPipe
  | mBulkOutPipe
  | mInBuffer (i : Fin 2)
  | mReadAction
  /-- the interface iterator -/
  | iterator
  /-- the memory of a packet -/
  | packet
  | deviceSession
  | interfaceSession
  deriving DecidableEq

/-- The stage of `Start` that fills in a member. -/
def Resource.stage : Resource → Nat
  | mDevice => 0
  | mQueue => 1
  | mInterface => 2
  | mBulkInPipe => 3
  | mBulkOutPipe => 4
  | mInBuffer i => 5 + i
  | mReadAction => 7
  | _ => 8

/-- `IOUSBInterfaceDescriptor`, as far as the driver reads it. -/
structure InterfaceDescriptor where
  bInterfaceNumber : UInt8
  bInterfaceClass : UInt8
  deriving DecidableEq

/-- `IOUSBEndpointDescriptor`, as far as the driver reads it. -/
structure EndpointDescriptor where
  bEndpointAddress : UInt8
  bmAttributes : UInt8
  deriving DecidableEq

/-- What the iterator yields. -/
inductive Candidate
  | notAnInterface
  | interface (descriptor : Option InterfaceDescriptor)

/-- How the calls of `Start` go. A call that fails hands out nothing. -/
structure Outcomes where
  superStart : IoReturn
  /-- the cast of the provider to `IOUSBHostDevice` -/
  isUsbDevice : Bool
  createQueue : IoReturn
  openDevice : IoReturn
  createInterfaceIterator : IoReturn
  /-- the iterator handed out is not null -/
  iterator : Bool
  /-- its cast to `OSIterator` -/
  isIterator : Bool
  candidates : List Candidate
  openInterface : IoReturn
  activeConfiguration : Bool
  interfaceDescriptor : Bool
  endpoints : List EndpointDescriptor
  copyPipeIn : IoReturn
  copyPipeOut : IoReturn
  createInBuffer : Fin 2 → IoReturn
  createAction : IoReturn
  createPacket : IoReturn
  /-- the packet memory handed out is not null -/
  packet : Bool
  io : IoReturn
  asyncIo : IoReturn

/-- `kUSBVendorSpecificClass`. -/
def kUsbVendorSpecificClass : UInt8 := 0xff

/-- The descriptor of the bulk interface. -/
def InterfaceDescriptor.isBulk (desc : InterfaceDescriptor) : Bool :=
  desc.bInterfaceNumber = 0 && desc.bInterfaceClass = kUsbVendorSpecificClass

/-- The walk over the interfaces: was the bulk interface among them? -/
def findInterface : List Candidate → Bool
  | [] => false
  | .notAnInterface :: rest => findInterface rest
  | .interface none :: rest => findInterface rest
  | .interface (some desc) :: rest => if desc.isBulk then true else findInterface rest

/-- The walk over the endpoint descriptors, with `inAddr` and `outAddr` so far. -/
def walkEndpoints : List EndpointDescriptor → UInt8 × UInt8 → UInt8 × UInt8
  | [], found => found
  | ep :: rest, (inAddr, outAddr) =>
      if ep.bmAttributes &&& 0x03 ≠ 0x02 then walkEndpoints rest (inAddr, outAddr)
      else if ep.bEndpointAddress &&& 0x80 = 0x80 then
        walkEndpoints rest (ep.bEndpointAddress, outAddr)
      else walkEndpoints rest (inAddr, ep.bEndpointAddress)

/-- A setup stage. -/
abbrev Stage := Attempt IoReturn (Ledger Resource)

namespace Stage

/-- A call that sets a member. -/
def create (outcome : IoReturn) (resource : Resource) : Stage := fun ledger =>
  if outcome ≠ .success then (outcome, ledger) else (.success, ledger.acquire resource)

def andThen (first second : Stage) : Stage :=
  Attempt.andThen .success first second

end Stage

/-- The wake-up packet. -/
def kDongleInitPacket : List UInt8 := [0x05, 0x20, 0x00, 0x01, 0x00]

/-- What a call takes or gives back. -/
def DriverIo.entry? : DriverIo → Option (Entry Resource)
  | .createPacket => some (.take .packet)
  | .releasePacket => some (.give .packet)
  | .send _ | .start _ | .stop _ | .post _ _ => none

/-- The packet memory of some calls, newest first. -/
def enterPackets (io : List DriverIo) (ledger : Ledger Resource) : Ledger Resource :=
  { ledger with entries := io.filterMap DriverIo.entry? ++ ledger.entries }

namespace Outcomes

variable (outcomes : Outcomes)

/-- `mDevice->Open`. -/
def openUsbDevice : Stage := fun ledger =>
  if outcomes.openDevice ≠ .success then (outcomes.openDevice, ledger)
  else (.success, ledger.enter (.take .deviceSession))

/-- The bulk interface was found. -/
def found : Bool :=
  outcomes.isIterator && findInterface outcomes.candidates

/-- The interface is retained when it is found, and then the iterator is given up: `iter` and
`iterator` are one object, and both are released. -/
def walkInterfaces (ledger : Ledger Resource) : Ledger Resource :=
  let retained := if outcomes.found then ledger.acquire .mInterface else ledger
  let released :=
    if outcomes.isIterator then retained.enter (.give .iterator) else retained
  released.enter (.give .iterator)

/-- `SetupUSBInterface`. -/
def setupUsbInterface : Stage := fun ledger =>
  if outcomes.createInterfaceIterator ≠ .success ∨ !outcomes.iterator then
    (kIoReturnNotFound, ledger)
  else
    let walked := outcomes.walkInterfaces (ledger.enter (.take .iterator))
    if !outcomes.found then (kIoReturnNotFound, walked)
    else if outcomes.openInterface ≠ .success then
      (outcomes.openInterface, walked.releaseNull .mInterface)
    else (.success, walked.enter (.take .interfaceSession))

/-- `SetupBulkPipes` up to the pipes. -/
def findPipes : Stage := fun ledger =>
  if ¬ledger.held .mInterface then (kIoReturnNoDevice, ledger)
  else if ¬outcomes.activeConfiguration then (kIoReturnNotFound, ledger)
  else if ¬outcomes.interfaceDescriptor then (kIoReturnNotFound, ledger)
  else
    let (inAddr, outAddr) := walkEndpoints outcomes.endpoints (0, 0)
    if inAddr = 0 ∨ outAddr = 0 then (kIoReturnNotFound, ledger) else (.success, ledger)

/-- `SetupBulkPipes`. -/
def setupBulkPipes : Stage :=
  (outcomes.findPipes.andThen (.create outcomes.copyPipeIn .mBulkInPipe)).andThen
    (.create outcomes.copyPipeOut .mBulkOutPipe)

/-- How `SendPacket` goes. -/
def sending (ledger : Ledger Resource) : SendOutcome :=
  if ¬ledger.held .mBulkOutPipe then .noPipe
  else if outcomes.createPacket ≠ .success ∨ !outcomes.packet then .noMemory outcomes.createPacket
  else .transfer outcomes.io

/-- `SendDongleInit`. -/
def sendDongleInit : Stage := fun ledger =>
  let sent := Driver.sendPacket (outcomes.sending ledger) kDongleInitPacket {}
  (sent.1, enterPackets sent.2.io ledger)

/-- `Start` from the cast of the provider to the first read. -/
def setup : Stage :=
  ((((((Stage.create outcomes.createQueue .mQueue).andThen outcomes.openUsbDevice).andThen
    outcomes.setupUsbInterface).andThen outcomes.setupBulkPipes).andThen
      ((Stage.create (outcomes.createInBuffer 0) (.mInBuffer 0)).andThen
        (.create (outcomes.createInBuffer 1) (.mInBuffer 1)))).andThen
          (.create outcomes.createAction .mReadAction)).andThen outcomes.sendDongleInit

end Outcomes

/-- The driver object. `aborted` says that `Stop` has aborted the reads. -/
structure Lifetime where
  ledger : Ledger Resource := {}
  loop : ReadLoop
  aborted : Bool := false

/-- The end of the virtual device of a slot in `Stop`. -/
def Driver.stopHidDevice (i : Fin maxControllers) (driver : Driver) : Driver :=
  if driver.mHidDevices i then
    (driver.log (.stop (UInt8.ofNat i))).setHidDevice i false
  else driver

namespace Lifetime

/-- The members in the order in which `Stop` releases them; the device is closed on the way. -/
def releaseMembers (ledger : Ledger Resource) : Ledger Resource :=
  let piped := ledger.releaseAll
    [.mReadAction, .mBulkInPipe, .mBulkOutPipe, .mInterface, .mInBuffer 0, .mInBuffer 1]
  let closed :=
    if piped.held .mDevice then (piped.enter (.give .deviceSession)).releaseNull .mDevice else piped
  closed.releaseNull .mQueue

/-- `Stop`. -/
def stop (life : Lifetime) : Lifetime where
  ledger := releaseMembers life.ledger
  loop := { life.loop with
    driver := (List.finRange maxControllers).foldl (fun d i => d.stopHidDevice i) life.loop.driver }
  aborted := life.aborted || life.ledger.held .mBulkInPipe

variable (outcomes : Outcomes) (memory : Fin 2 → List UInt8)

/-- `Start`. -/
def start : IoReturn × Lifetime :=
  let created : Lifetime := { loop := { mInBuffer := memory } }
  if outcomes.superStart ≠ .success then (outcomes.superStart, created)
  else if !outcomes.isUsbDevice then (kIoReturnNoDevice, created)
  else
    let prepared := outcomes.setup (created.ledger.acquire .mDevice)
    if prepared.1 ≠ .success then (prepared.1, { created with ledger := prepared.2 }.stop)
    else
      let scheduled := created.loop.scheduleNextRead outcomes.asyncIo
      let started : Lifetime := { ledger := prepared.2, loop := scheduled.2 }
      if scheduled.1 ≠ .success then (scheduled.1, started.stop) else (.success, started)

/-- The whole life of a driver object: `Start`, and if it succeeds the completions and `Stop`. The
packets of the acknowledgements come and go with the frames. -/
def whole (outside : Nat → ControllerSlot) (completions : List Completion) : Lifetime :=
  let started := start outcomes memory
  if started.1 = .success then
    let loop := run (ReadLoop.step outside) started.2.loop completions
    { started.2 with ledger := enterPackets loop.driver.io started.2.ledger, loop := loop }.stop
  else started.2

end Lifetime

/-! ## The books -/

/-- What is held by one pointer at a time. -/
def Resource.Counted : Resource → Prop
  | iterator | deviceSession | interfaceSession => False
  | _ => True

theorem Resource.counted_of_stage {r : Resource} (hstage : r.stage < 8) : r.Counted := by
  cases r <;> trivial

theorem Resource.eq_of_stage {r s : Resource} (hstage : r.stage = s.stage) (hs : s.stage < 8) :
    r = s := by
  cases r <;> cases s <;> simp only [stage, reduceCtorEq] at hstage hs ⊢ <;> grind

/-- The books of a driver: every pointer owns its object, the iterator is given back once for each
pointer to it, and no session of the interface ends. -/
structure Outcomes.Books (outcomes : Outcomes) (ledger : Ledger Resource) : Prop where
  owns : ∀ r : Resource, r.Counted → ledger.Owns r
  iterator : ledger.given .iterator =
    (if outcomes.isIterator then 2 else 1) * ledger.taken .iterator
  interfaceSession : ledger.given .interfaceSession = 0
  noMember : ∀ r : Resource, 8 ≤ r.stage → ledger.held r = false

/-- `Start` is still on its way: it has the device and has not closed it. -/
structure Outcomes.Setup (outcomes : Outcomes) (ledger : Ledger Resource) : Prop
    extends outcomes.Books ledger where
  deviceSession : ledger.given .deviceSession = 0
  device : ledger.held .mDevice = true

/-- The members of the first stages are filled in. -/
structure Outcomes.Reached (outcomes : Outcomes) (stage : Nat) (ledger : Ledger Resource) : Prop
    extends outcomes.Setup ledger where
  held : ∀ r : Resource, ledger.held r = decide (r.stage < stage)

section

variable (io : List DriverIo) (ledger : Ledger Resource) (r : Resource)

theorem taken_enterPackets :
    (enterPackets io ledger).taken r =
      ledger.taken r + if .packet = r then io.count .createPacket else 0 := by
  have hcount : (io.filterMap DriverIo.entry?).count (.take r) =
      if .packet = r then io.count .createPacket else 0 := by
    induction io with
    | nil => exact (ite_self 0).symm
    | cons call rest ih =>
        cases call with
        | createPacket =>
            rw [List.filterMap_cons, DriverIo.entry?, List.count_cons, List.count_cons_self, ih]
            by_cases hr : Resource.packet = r
            · simp [hr]
            · simp [hr]
        | releasePacket | send | start | stop | post =>
            simpa [List.filterMap_cons, DriverIo.entry?] using ih
  rw [Ledger.taken, enterPackets, List.count_append, hcount, Nat.add_comm]
  rfl

theorem given_enterPackets :
    (enterPackets io ledger).given r =
      ledger.given r + if .packet = r then io.count .releasePacket else 0 := by
  have hcount : (io.filterMap DriverIo.entry?).count (.give r) =
      if .packet = r then io.count .releasePacket else 0 := by
    induction io with
    | nil => exact (ite_self 0).symm
    | cons call rest ih =>
        cases call with
        | releasePacket =>
            rw [List.filterMap_cons, DriverIo.entry?, List.count_cons, List.count_cons_self, ih]
            by_cases hr : Resource.packet = r
            · simp [hr]
            · simp [hr]
        | createPacket | send | start | stop | post =>
            simpa [List.filterMap_cons, DriverIo.entry?] using ih
  rw [Ledger.given, enterPackets, List.count_append, hcount, Nat.add_comm]
  rfl

end

/-- The memory of every packet was given back. -/
def PacketsSettled (io : List DriverIo) : Prop :=
  io.count .createPacket = io.count .releasePacket

theorem PacketsSettled.call {before after : Driver} (hcall : Driver.Call before after)
    (hbefore : PacketsSettled before.io) : PacketsSettled after.io := by
  unfold PacketsSettled at hbefore ⊢
  cases hcall with
  | none hio _ => rwa [hio]
  | send packet hio _ => simpa [hio] using hbefore
  | post i report _ _ hio _ => simpa [hio] using hbefore
  | start i _ hio _ => simpa [hio] using hbefore
  | stop i _ hio _ => simpa [hio] using hbefore

namespace Outcomes

variable {outcomes : Outcomes} {ledger : Ledger Resource}

theorem Setup.acquire (hsetup : outcomes.Setup ledger) {r : Resource} (hstage : r.stage < 8)
    (hclear : ledger.held r = false) : outcomes.Setup (ledger.acquire r) where
  owns s hs := (hsetup.owns s hs).acquire r hclear
  iterator := by
    have hne : r ≠ .iterator := by
      rintro rfl
      exact Resource.counted_of_stage hstage
    rw [Ledger.given_acquire, Ledger.taken_acquire, if_neg hne, Nat.add_zero]
    exact hsetup.iterator
  interfaceSession := by
    rw [Ledger.given_acquire]
    exact hsetup.interfaceSession
  noMember s hs := by
    have hne : s ≠ r := by
      rintro rfl
      exact Nat.not_lt_of_le hs hstage
    rw [Ledger.held_acquire, Function.update_of_ne hne]
    exact hsetup.noMember s hs
  deviceSession := by
    rw [Ledger.given_acquire]
    exact hsetup.deviceSession
  device := by
    rw [Ledger.held_acquire]
    by_cases hsame : Resource.mDevice = r
    · rw [hsame, Function.update_self]
    · rw [Function.update_of_ne hsame]
      exact hsetup.device

theorem Books.releaseNull (hbooks : outcomes.Books ledger) {r : Resource} (hr : r.Counted) :
    outcomes.Books (ledger.releaseNull r) where
  owns s hs := (hbooks.owns s hs).releaseNull r
  iterator := by
    have hne : r ≠ .iterator := by
      rintro rfl
      exact hr
    rw [Ledger.given_releaseNull_ne _ _ _ hne, Ledger.taken_releaseNull]
    exact hbooks.iterator
  interfaceSession := by
    have hne : r ≠ .interfaceSession := by
      rintro rfl
      exact hr
    rw [Ledger.given_releaseNull_ne _ _ _ hne]
    exact hbooks.interfaceSession
  noMember s hs := by
    rw [Ledger.held_releaseNull, hbooks.noMember s hs, ite_self]

/-- A pointer is cleared during setup, the device excepted. -/
theorem Setup.releaseNull (hsetup : outcomes.Setup ledger) {r : Resource} (hr : r.Counted)
    (hne : r ≠ .mDevice) : outcomes.Setup (ledger.releaseNull r) where
  toBooks := hsetup.toBooks.releaseNull hr
  deviceSession := by
    have hsession : r ≠ .deviceSession := by
      rintro rfl
      exact hr
    rw [Ledger.given_releaseNull_ne _ _ _ hsession]
    exact hsetup.deviceSession
  device := by
    rw [Ledger.held_releaseNull, if_neg hne]
    exact hsetup.device

/-- The next member is filled in. -/
theorem Reached.acquire {r : Resource} (hreached : outcomes.Reached r.stage ledger)
    (hstage : r.stage < 8) :
    outcomes.Reached (r.stage + 1) (ledger.acquire r) := by
  have hclear : ledger.held r = false := by
    rw [hreached.held, decide_eq_false (Nat.lt_irrefl _)]
  refine ⟨hreached.toSetup.acquire hstage hclear, fun s => ?_⟩
  rw [Ledger.held_acquire]
  by_cases hsame : s = r
  · rw [hsame, Function.update_self, decide_eq_true (Nat.lt_succ_self _)]
  · have hne : s.stage ≠ r.stage := fun heq => hsame (Resource.eq_of_stage heq hstage)
    rw [Function.update_of_ne hsame, hreached.held]
    exact decide_eq_decide.mpr ⟨fun h => h.trans (Nat.lt_succ_self _),
      fun h => Nat.lt_of_le_of_ne (Nat.le_of_lt_succ h) hne⟩

/-! ## The stages -/

theorem create_spec (outcome : IoReturn) {r : Resource} (hstage : r.stage < 8) :
    (Stage.create outcome r).Spec .success (outcomes.Reached r.stage)
      (outcomes.Reached (r.stage + 1)) outcomes.Setup := by
  intro ledger hreached
  unfold Stage.create
  by_cases hsuccess : outcome = .success
  · rw [if_neg (not_not.mpr hsuccess), if_pos rfl]
    exact hreached.acquire hstage
  · rw [if_pos hsuccess, if_neg hsuccess]
    exact hreached.toSetup

/-- A session begins. -/
theorem Reached.session {stage : Nat} (hreached : outcomes.Reached stage ledger) {r : Resource}
    (hr : ¬r.Counted) (hne : r ≠ .iterator) : outcomes.Reached stage (ledger.enter (.take r)) := by
  refine ⟨⟨⟨fun s hs => (hreached.owns s hs).enter ?_ ?_, ?_, ?_, hreached.noMember⟩, ?_,
    hreached.device⟩, hreached.held⟩
  · rintro ⟨⟩
    exact hr hs
  · rintro ⟨⟩
  · rw [Ledger.given_take, Ledger.taken_take, if_neg hne, Nat.add_zero]
    exact hreached.iterator
  · rw [Ledger.given_take]
    exact hreached.interfaceSession
  · rw [Ledger.given_take]
    exact hreached.deviceSession

theorem openUsbDevice_spec (stage : Nat) :
    outcomes.openUsbDevice.Spec .success (outcomes.Reached stage) (outcomes.Reached stage)
      outcomes.Setup := by
  intro ledger hreached
  unfold openUsbDevice
  by_cases hsuccess : outcomes.openDevice = .success
  · rw [if_neg (not_not.mpr hsuccess), if_pos rfl]
    exact hreached.session id (by simp)
  · rw [if_pos hsuccess, if_neg hsuccess]
    exact hreached.toSetup

theorem held_walkInterfaces :
    (outcomes.walkInterfaces ledger).held =
      if outcomes.found then (ledger.acquire .mInterface).held else ledger.held := by
  unfold walkInterfaces
  dsimp only
  split_ifs <;> rfl

theorem held_walkInterfaces_ne {r : Resource} (hne : r ≠ .mInterface) :
    (outcomes.walkInterfaces ledger).held r = ledger.held r := by
  rw [held_walkInterfaces]
  split
  · rw [Ledger.held_acquire, Function.update_of_ne hne]
  · rfl

/-- The iterator is released as `iter` and as `iterator`. -/
theorem walkInterfaces_setup (hsetup : outcomes.Setup ledger)
    (hclear : ledger.held .mInterface = false) :
    outcomes.Setup (outcomes.walkInterfaces (ledger.enter (.take .iterator))) where
  owns r hr := by
    -- the walk takes and gives the iterator only, which is no member
    have hother (entry : Machine.Entry Resource) (hentry : entry = .take .iterator ∨
        entry = .give .iterator) : entry ≠ .take r ∧ entry ≠ .give r := by
      rcases hentry with rfl | rfl <;> constructor <;> rintro ⟨⟩ <;> exact hr
    have htake := hother _ (Or.inl rfl)
    have hgive := hother _ (Or.inr rfl)
    have hentered := (hsetup.owns r hr).enter htake.1 htake.2
    have hretained : (if outcomes.found then
        (ledger.enter (.take .iterator)).acquire .mInterface
        else ledger.enter (.take .iterator)).Owns r := by
      split
      · exact hentered.acquire _ hclear
      · exact hentered
    unfold walkInterfaces
    dsimp only
    split
    · exact (hretained.enter hgive.1 hgive.2).enter hgive.1 hgive.2
    · exact hretained.enter hgive.1 hgive.2
  iterator := by
    have hiterator := hsetup.iterator
    unfold walkInterfaces
    dsimp only
    split_ifs at hiterator ⊢ <;> simp [hiterator, Nat.mul_add]
  interfaceSession := by
    unfold walkInterfaces
    dsimp only
    split_ifs <;> simp [hsetup.interfaceSession]
  noMember r hr := by
    have hne : r ≠ .mInterface := by
      rintro rfl
      exact absurd hr (by decide)
    rw [held_walkInterfaces_ne hne]
    exact hsetup.noMember r hr
  deviceSession := by
    unfold walkInterfaces
    dsimp only
    split_ifs <;> simp [hsetup.deviceSession]
  device := by
    rw [held_walkInterfaces_ne (by decide)]
    exact hsetup.device

theorem setupUsbInterface_spec :
    outcomes.setupUsbInterface.Spec .success (outcomes.Reached 2) (outcomes.Reached 3)
      outcomes.Setup := by
  intro ledger hreached
  have hclear : ledger.held .mInterface = false := hreached.held .mInterface
  have hwalked := walkInterfaces_setup hreached.toSetup hclear
  unfold setupUsbInterface
  dsimp only
  by_cases hiterator : outcomes.createInterfaceIterator ≠ .success ∨ !outcomes.iterator
  · rw [if_pos hiterator]
    exact hreached.toSetup
  rw [if_neg hiterator]
  cases hfound : outcomes.found with
  | false => exact hwalked
  | true =>
      simp only [Bool.not_true, Bool.false_eq_true, if_false]
      by_cases hsuccess : outcomes.openInterface = .success
      · rw [if_neg (not_not.mpr hsuccess), if_pos rfl]
        -- an interface was found: it is the third member that is held
        have hmember : outcomes.Reached 3
            (outcomes.walkInterfaces (ledger.enter (.take .iterator))) := by
          refine ⟨hwalked, fun r => ?_⟩
          rw [held_walkInterfaces, if_pos hfound]
          exact (hreached.acquire (r := .mInterface) (by decide)).held r
        exact hmember.session id (by simp)
      · rw [if_pos hsuccess, if_neg hsuccess]
        exact hwalked.releaseNull trivial (by decide)

theorem findPipes_spec :
    outcomes.findPipes.Spec .success (outcomes.Reached 3) (outcomes.Reached 3) outcomes.Setup := by
  intro ledger hreached
  have hfails (code : IoReturn) (hcode : code ≠ .success) :
      if code = .success then outcomes.Reached 3 ledger else outcomes.Setup ledger := by
    rw [if_neg hcode]
    exact hreached.toSetup
  unfold findPipes
  split
  · exact hfails kIoReturnNoDevice (by decide)
  split
  · exact hfails kIoReturnNotFound (by decide)
  split
  · exact hfails kIoReturnNotFound (by decide)
  dsimp only
  split
  · exact hfails kIoReturnNotFound (by decide)
  · exact hreached

theorem setupBulkPipes_spec :
    outcomes.setupBulkPipes.Spec .success (outcomes.Reached 3) (outcomes.Reached 5)
      outcomes.Setup :=
  (findPipes_spec.andThen (create_spec _ (r := .mBulkInPipe) (by decide))).andThen
    (create_spec _ (r := .mBulkOutPipe) (by decide))

/-- Packet memory that comes and goes leaves the books as they are. -/
theorem Reached.packets {stage : Nat} (hreached : outcomes.Reached stage ledger)
    {io : List DriverIo} (hio : PacketsSettled io) :
    outcomes.Reached stage (enterPackets io ledger) := by
  have htaken (r : Resource) := taken_enterPackets io ledger r
  have hgiven (r : Resource) := given_enterPackets io ledger r
  refine ⟨⟨⟨fun r hr => ?_, ?_, ?_, hreached.noMember⟩, ?_, hreached.device⟩, hreached.held⟩
  · have howns := hreached.owns r hr
    unfold Ledger.Owns at howns ⊢
    rw [htaken, hgiven, howns, hio]
    exact Nat.add_right_comm _ _ _
  · rw [htaken, hgiven]
    exact hreached.iterator
  · rw [hgiven]
    exact hreached.interfaceSession
  · rw [hgiven]
    exact hreached.deviceSession

theorem sendDongleInit_spec {stage : Nat} :
    outcomes.sendDongleInit.Spec .success (outcomes.Reached stage) (outcomes.Reached stage)
      outcomes.Setup := by
  intro ledger hreached
  have hsent : outcomes.Reached stage (outcomes.sendDongleInit ledger).2 := by
    refine hreached.packets ?_
    rw [Driver.sendPacket_eq]
    cases outcomes.sending ledger with
    | noPipe | noMemory | transfer => rfl
  split
  · exact hsent
  · exact hsent.toSetup

/-- Whatever fails, the books are right; if nothing fails, every member is filled in. -/
theorem setup_spec :
    outcomes.setup.Spec .success (outcomes.Reached 1) (outcomes.Reached 8) outcomes.Setup :=
  ((((((create_spec _ (r := .mQueue) (by decide)).andThen (openUsbDevice_spec 2)).andThen
    setupUsbInterface_spec).andThen setupBulkPipes_spec).andThen
      ((create_spec _ (r := .mInBuffer 0) (by decide)).andThen
        (create_spec _ (r := .mInBuffer 1) (by decide)))).andThen
          (create_spec _ (r := .mReadAction) (by decide))).andThen sendDongleInit_spec

end Outcomes

/-! ## `Stop` -/

section

variable {outcomes : Outcomes} {ledger : Ledger Resource}

/-- Every pointer is cleared, and the device is closed. -/
theorem releaseMembers_books (hsetup : outcomes.Setup ledger) :
    outcomes.Books (Lifetime.releaseMembers ledger) ∧
      (∀ r, (Lifetime.releaseMembers ledger).held r = false) ∧
      (Lifetime.releaseMembers ledger).given .deviceSession = 1 := by
  -- the members are released in the order of `Stop`, whether they are held or not
  have hpiped : outcomes.Setup (ledger.releaseAll
      [.mReadAction, .mBulkInPipe, .mBulkOutPipe, .mInterface, .mInBuffer 0, .mInBuffer 1]) := by
    refine Ledger.releaseAll_rule (fun r hr before hbefore => ?_) hsetup
    simp only [List.mem_cons, List.not_mem_nil, or_false] at hr
    rcases hr with rfl | rfl | rfl | rfl | rfl | rfl <;>
      exact hbefore.releaseNull trivial (by decide)
  have hheld (r : Resource) := Ledger.held_releaseAll
    [.mReadAction, .mBulkInPipe, .mBulkOutPipe, .mInterface, .mInBuffer 0, .mInBuffer 1] ledger r
  unfold Lifetime.releaseMembers
  dsimp only
  generalize ledger.releaseAll
    [.mReadAction, .mBulkInPipe, .mBulkOutPipe, .mInterface, .mInBuffer 0, .mInBuffer 1] = piped at *
  -- the device is still held here, so its session is closed
  rw [if_pos hpiped.device]
  have hclosed : outcomes.Books (piped.enter (.give .deviceSession)) := by
    refine ⟨fun r hr => (hpiped.owns r hr).enter (by rintro ⟨⟩) ?_, ?_, ?_, hpiped.noMember⟩
    · rintro ⟨⟩
      exact hr
    · rw [Ledger.given_give, Ledger.taken_give, if_neg (by decide), Nat.add_zero]
      exact hpiped.iterator
    · rw [Ledger.given_give, if_neg (by decide), Nat.add_zero]
      exact hpiped.interfaceSession
  refine ⟨(hclosed.releaseNull (r := .mDevice) trivial).releaseNull (r := .mQueue) trivial,
    fun r => ?_, ?_⟩
  · simp only [Ledger.held_releaseNull, Ledger.held_enter]
    by_cases hlate : 8 ≤ r.stage
    · rw [hpiped.noMember r hlate, ite_self, ite_self]
    · rw [hheld]
      cases r with
      | mInBuffer i =>
          revert i
          rw [Fin.forall_fin_two]
          simp
      | mDevice | mQueue | mInterface | mBulkInPipe | mBulkOutPipe | mReadAction => simp
      | iterator | packet | deviceSession | interfaceSession => exact absurd (Nat.le_refl 8) hlate
  · simp [hpiped.deviceSession]

end

theorem Driver.stopHidDevice_call (i : Fin maxControllers) (driver : Driver) :
    Driver.Call driver (driver.stopHidDevice i) := by
  unfold Driver.stopHidDevice
  split
  next hpresent => exact .stop i hpresent rfl rfl
  · exact .none rfl rfl

theorem Driver.stopHidDevice_devices (i j : Fin maxControllers) (driver : Driver) :
    (driver.stopHidDevice i).mHidDevices j = (driver.mHidDevices j && decide (j ≠ i)) := by
  unfold Driver.stopHidDevice
  by_cases hpresent : driver.mHidDevices i = true
  · rw [if_pos hpresent]
    by_cases hji : j = i
    · rw [hji, decide_eq_false (not_not.mpr rfl), Bool.and_false]
      exact Function.update_self ..
    · rw [decide_eq_true hji, Bool.and_true]
      exact Function.update_of_ne hji ..
  · rw [if_neg hpresent]
    by_cases hji : j = i
    · rw [hji, Bool.eq_false_iff.mpr hpresent, Bool.false_and]
    · rw [decide_eq_true hji, Bool.and_true]

/-- The loop over the slots stops the gamepads of all of them. -/
theorem Driver.stopAll (slots : List (Fin maxControllers)) {driver : Driver}
    (hlived : driver.Lived) :
    (slots.foldl (fun d i => d.stopHidDevice i) driver).Lived ∧
      ∀ i ∈ slots, (slots.foldl (fun d i => d.stopHidDevice i) driver).mHidDevices i = false := by
  induction slots using List.reverseRecOn with
  | nil => exact ⟨hlived, fun i hi => absurd hi List.not_mem_nil⟩
  | append_singleton slots last ih =>
      rw [List.foldl_concat]
      refine ⟨ih.1.call (Driver.stopHidDevice_call last _), fun i hi => ?_⟩
      rw [Driver.stopHidDevice_devices]
      rcases List.mem_append.mp hi with hearlier | hlast
      · rw [ih.2 i hearlier, Bool.false_and]
      · rw [List.mem_singleton.mp hlast, decide_eq_false (not_not.mpr rfl), Bool.and_false]

/-! ## The end -/

/-- A driver object after its life. -/
structure Lifetime.Ended (outcomes : Outcomes) (life : Lifetime) : Prop where
  /-- every object of a member and all packet memory is given back as often as it was taken -/
  members : ∀ r : Resource, r.Counted → life.ledger.given r = life.ledger.taken r
  cleared : ∀ r : Resource, life.ledger.held r = false
  /-- the iterator is given back twice if it is an `OSIterator` -/
  iterator : life.ledger.given .iterator =
    (if outcomes.isIterator then 2 else 1) * life.ledger.taken .iterator
  /-- the session of the interface is never closed -/
  interfaceSession : life.ledger.given .interfaceSession = 0
  /-- the device is closed once, whether or not it was opened -/
  deviceSession : life.ledger.given .deviceSession =
    if outcomes.superStart = .success ∧ outcomes.isUsbDevice then 1 else 0
  /-- every gamepad was started, used and stopped in turn, and none is left -/
  gamepads : ∀ i, accept gamepadNext false (life.loop.driver.io.filter (·.isFor i)).reverse =
    some false
  reads : life.loop.outstanding ≠ [] → life.aborted = true

namespace Lifetime

variable {outcomes : Outcomes}

/-- `Stop` ends the life of every driver whose books are right. -/
theorem stop_ended {life : Lifetime} (hsetup : outcomes.Setup life.ledger)
    (hdevice : outcomes.superStart = .success ∧ outcomes.isUsbDevice)
    (hlived : life.loop.driver.Lived)
    (hreads : life.loop.outstanding = [] ∨ life.ledger.held .mBulkInPipe = true) :
    life.stop.Ended outcomes := by
  obtain ⟨hbooks, hcleared, hsession⟩ := releaseMembers_books hsetup
  obtain ⟨hstopped, hnone⟩ := Driver.stopAll (List.finRange maxControllers) hlived
  exact {
    members := fun r hr => (hbooks.owns r hr).settled (hcleared r)
    cleared := hcleared
    iterator := hbooks.iterator
    interfaceSession := hbooks.interfaceSession
    deviceSession := by rw [if_pos hdevice]; exact hsession
    gamepads := fun i => (hstopped i).trans (congrArg some (hnone i (List.mem_finRange i)))
    reads := fun hsome => by
      rcases hreads with hempty | hheld
      · exact absurd hempty hsome
      · exact (congrArg (life.aborted || ·) hheld).trans (Bool.or_true _) }

/-- A driver object that never got its device. -/
theorem created_ended (memory : Fin 2 → List UInt8)
    (hdevice : ¬(outcomes.superStart = .success ∧ outcomes.isUsbDevice)) :
    Ended outcomes { loop := { mInBuffer := memory } } where
  members _ _ := rfl
  cleared _ := rfl
  iterator := rfl
  interfaceSession := rfl
  deviceSession := (if_neg hdevice).symm
  gamepads _ := rfl
  reads hsome := absurd rfl hsome

/-- The device is the first member. -/
theorem device_reached :
    outcomes.Reached 1 (({} : Ledger Resource).acquire .mDevice) := by
  have hheld (r : Resource) :
      (({} : Ledger Resource).acquire .mDevice).held r = decide (r.stage < 1) := by
    rw [Ledger.held_acquire]
    by_cases hdevice : r = .mDevice
    · subst hdevice
      rfl
    · have hlate : ¬r.stage < 1 := fun h =>
        hdevice (Resource.eq_of_stage (Nat.lt_one_iff.mp h) (by decide))
      rw [Function.update_of_ne hdevice, decide_eq_false hlate]
  have howns (r : Resource) : ({} : Ledger Resource).Owns r := rfl
  refine ⟨⟨⟨fun r _ => (howns r).acquire .mDevice rfl, (Nat.mul_zero _).symm, rfl, fun r hr => ?_⟩,
    rfl, hheld _⟩, hheld⟩
  rw [hheld, decide_eq_false (Nat.not_lt_of_le (Nat.le_trans (by decide) hr))]

theorem scheduleNextRead_code (asyncIo : IoReturn) (loop : ReadLoop) :
    (loop.scheduleNextRead asyncIo).1 = asyncIo := by
  unfold ReadLoop.scheduleNextRead
  dsimp only
  split
  · rfl
  · rfl

/-- However its calls go and whatever it reads, a driver object ends with every reference of its
members given back, its device closed and its gamepads stopped. The iterator over the interfaces is
given back twice, and the interface it opened stays open. -/
theorem driver_gives_back (outcomes : Outcomes) (memory : Fin 2 → List UInt8)
    (outside : Nat → ControllerSlot) (completions : List Completion) :
    (whole outcomes memory outside completions).Ended outcomes := by
  have hfresh : Driver.Lived {} := fun _ => rfl
  unfold whole start
  dsimp only
  by_cases hsuper : outcomes.superStart = .success
  case neg =>
    rw [if_pos hsuper, if_neg hsuper]
    exact created_ended memory fun h => hsuper h.1
  rw [if_neg (not_not.mpr hsuper)]
  cases husb : outcomes.isUsbDevice with
  | false => exact created_ended memory fun h => by simp [husb] at h
  | true =>
      have hspec := (Outcomes.setup_spec : outcomes.setup.Spec _ _ _ _) _ device_reached
      simp only [Bool.not_true, Bool.false_eq_true, if_false]
      generalize outcomes.setup (({} : Ledger Resource).acquire .mDevice) = prepared at hspec ⊢
      by_cases hprepared : prepared.1 = .success
      case neg =>
        rw [if_neg hprepared] at hspec
        rw [if_pos hprepared, if_neg hprepared]
        exact stop_ended hspec ⟨hsuper, husb⟩ hfresh (Or.inl rfl)
      rw [if_pos hprepared] at hspec
      rw [if_neg (not_not.mpr hprepared), scheduleNextRead_code]
      by_cases hasync : outcomes.asyncIo = .success
      case neg =>
        rw [if_pos hasync, if_neg hasync]
        refine stop_ended hspec.toSetup ⟨hsuper, husb⟩ ?_ (Or.inl ?_)
        · exact (congrArg Driver.Lived (ReadLoop.scheduleNextRead_driver _)).mpr hfresh
        · rw [ReadLoop.scheduleNextRead_outstanding _ rfl, if_neg hasync]
      rw [if_neg (not_not.mpr hasync), if_pos rfl]
      have hstart : ReadLoop.start outcomes.asyncIo { mInBuffer := memory } =
          some (ReadLoop.scheduleNextRead outcomes.asyncIo { mInBuffer := memory }).2 :=
        if_neg (not_not.mpr ((scheduleNextRead_code _ _).trans hasync))
      -- the reads hand the driver a run of steps, so what holds of every run holds here
      have hfollows := @ReadLoop.run_follows outside _ _ _ hstart completions
      rw [ReadLoop.Follows] at hfollows
      have hlived : Driver.Lived (run (ReadLoop.step outside)
          (ReadLoop.scheduleNextRead outcomes.asyncIo { mInBuffer := memory }).2
          completions).driver := by
        rw [hfollows]
        exact Driver.run_of_calls outside (fun _ _ => Driver.Lived.call) hfresh _
      have hsettled : PacketsSettled (run (ReadLoop.step outside)
          (ReadLoop.scheduleNextRead outcomes.asyncIo { mInBuffer := memory }).2
          completions).driver.io := by
        rw [hfollows]
        have hnone : PacketsSettled ({} : Driver).io := rfl
        exact Driver.run_of_calls (P := fun driver => PacketsSettled driver.io) outside
          (fun _ _ => PacketsSettled.call) hnone _
      exact stop_ended (hspec.packets hsettled).toSetup ⟨hsuper, husb⟩ hlived
        (Or.inr (hspec.held .mBulkInPipe))

end Lifetime

end XoneDarwin.DriverKit
