import XoneDarwin.Daemon.Main
import XoneDarwin.Machine.Reading

/-!
# What the reader reads of its buffer

The receive path once more, over the whole buffer of `reader_thread` and with
pointers into it: every byte is taken with `readByte`, which records its index. A
header is read once; that its addresses are read again further on adds no index.
On a transfer of `n` bytes the path reads below `n` only and does what
`handleTransfer` does to the transfer.
-/

namespace XoneDarwin

open Machine (Reading)
open Machine.Reading (Within guarded)

/-! ## Loads -/

section

variable (buf : List UInt8)

/-- `buf[p]`. -/
def readByte (p : Nat) : Reading UInt8 :=
  Reading.cell (byteAt buf) p

/-- `memcpy(&x, buf + p, 2)`. -/
def read16 (p : Nat) : Reading UInt16 := do
  let b0 ← readByte buf p
  let b1 ← readByte buf (p + 1)
  pure (load16 [b0, b1])

/-- `memcpy(&x, buf + p, 4)`. -/
def read32 (p : Nat) : Reading UInt32 := do
  let b0 ← readByte buf p
  let b1 ← readByte buf (p + 1)
  let b2 ← readByte buf (p + 2)
  let b3 ← readByte buf (p + 3)
  pure (load32 [b0, b1, b2, b3])

/-- The address at `buf + p`. -/
def readMac (p : Nat) : Reading Mac := do
  let b0 ← readByte buf p
  let b1 ← readByte buf (p + 1)
  let b2 ← readByte buf (p + 2)
  let b3 ← readByte buf (p + 3)
  let b4 ← readByte buf (p + 4)
  let b5 ← readByte buf (p + 5)
  pure ⟨b0, b1, b2, b3, b4, b5⟩

/-- The `gip_header_t` at `buf + p`. -/
def readGipHeader (p : Nat) : Reading GipHeader := do
  let command ← readByte buf p
  let client ← readByte buf (p + 1)
  let sequence ← readByte buf (p + 2)
  let length ← readByte buf (p + 3)
  pure ⟨command, client, sequence, length⟩

/-! ## Input packets -/

/-- Pointer and length of an input packet behind the wireless wrapper. -/
def readUnwrapped (p : Nat) (plen : UInt8) : Reading (Nat × UInt8) := do
  let wrapped ← guarded (plen ≥ 24) do
    let command ← readByte buf (p + 4)
    guarded (command = gipCmdInput) do
      let length ← readByte buf (p + 7)
      pure (decide (length ≥ 14))
  pure (if wrapped then (p + 8, plen - 8) else (p, plen))

/-- Layout A. -/
def readInput14 (p : Nat) : Reading GipInput := do
  let buttons ← read16 buf p
  let triggerL ← read16 buf (p + 2)
  let triggerR ← read16 buf (p + 4)
  let stickLx ← read16 buf (p + 6)
  let stickLy ← read16 buf (p + 8)
  let stickRx ← read16 buf (p + 10)
  let stickRy ← read16 buf (p + 12)
  pure ⟨buttons, triggerL, triggerR, stickLx.toInt16, stickLy.toInt16, stickRx.toInt16,
    stickRy.toInt16⟩

/-- Layout B. -/
def readInput16 (p : Nat) : Reading GipInput := do
  let buttons32 ← read32 buf p
  let triggerL ← read16 buf (p + 4)
  let triggerR ← read16 buf (p + 6)
  let stickLx ← read16 buf (p + 8)
  let stickLy ← read16 buf (p + 10)
  let stickRx ← read16 buf (p + 12)
  let stickRy ← read16 buf (p + 14)
  pure ⟨buttons32Flags.foldl (fun buttons flag =>
      if buttons32 &&& ((1 : UInt32) <<< flag.1) ≠ 0 then buttons ||| flag.2 else buttons) 0,
    triggerL, triggerR, stickLx.toInt16, stickLy.toInt16, stickRx.toInt16, stickRy.toInt16⟩

/-- The decoding step of `on_input`: layout B is read only if there are 16 bytes. -/
def readParsed (p : Nat) (plen : UInt8) : Reading (Option GipInput) := do
  let input ← readUnwrapped buf p plen
  if input.2 < 14 then pure none
  else do
    let parsed14 ← readInput14 buf input.1
    if input.2 ≥ 16 then do
      let parsed16 ← readInput16 buf input.1
      pure (some (if ¬parsed14.TriggersOk ∧ parsed16.TriggersOk then parsed16 else parsed14))
    else pure (some parsed14)

variable (world : World)

/-- `on_input`. -/
def readInput (client : UInt8) (p : Nat) (plen : UInt8) (pads : Pads) : Reading Pads :=
  match slotIdx? client with
  | none => pure pads
  | some i =>
      if (pads.slots i).active then do
        let parsed ← readParsed buf p plen
        pure (match parsed with
          | none => pads
          | some g => reportInput world.eventUdp client i g pads)
      else pure pads

/-! ## Data frames -/

/-- `dispatch_wlan_gip` of the packet at `buf + p`. -/
def readDispatch (i : Fin maxPeers) (slot : UInt8) (p : Nat) (gipLen : Int) (daemon : Daemon) :
    Reading Daemon :=
  if slot ≥ 8 ∨ gipLen < 4 then pure daemon
  else do
    let h ← readGipHeader buf p
    let plen := h.plen (gipLen - 4)
    let acked := dispatchAck world i h daemon
    if h.command = gipCmdCtrlAdded then
      pure { acked with pads := onConnect world.host world.eventUdp slot acked.pads }
    else if h.command = gipCmdCtrlLost then
      pure { acked with pads := onDisconnect world.eventUdp slot acked.pads }
    else if h.command = gipCmdAnnounce then
      pure (if h.deviceId = 0 ∧ h.frameType = gipTypeRequest then sendInitialCommands world i acked
        else acked)
    else if h.command = gipCmdStatus then pure acked
    else if h.command = gipCmdInput ∨ h.command = gipCmdInputOverflow then do
      let pads ← readInput buf world slot (p + 4) plen acked.pads
      pure { acked with pads := pads }
    else if h.command = gipCmdGuideBtn then
      if plen ≥ 1 then do
        let pressed ← readByte buf (p + 4)
        pure { acked with pads := onGuide world.eventUdp slot (pressed ≠ 0) acked.pads }
      else pure acked
    else pure acked

/-- `on_xbox_data` with its payload at `buf + p`. -/
def readData (src : Mac) (p : Nat) (plen : Int) (daemon : Daemon) : Reading Daemon :=
  if plen ≤ 4 then pure daemon
  else
    let found := findOrRemember world src daemon
    match found.1 with
    | none => pure found.2
    | some i =>
        let slot := found.2.table.peerSlot i
        let mapped := { found.2 with table := slot.2 }
        if slot.1 ≥ 8 then pure mapped
        else
          readDispatch buf world i slot.1 (p + 4) (plen - 4)
            (establishDataPath world i slot.1 mapped)

/-! ## Management frames -/

/-- `payload_len >= 2 && pl[0] == first && pl[1] == second`. -/
def readStarts (payloadLen : Int) (first second : UInt8) : Reading Bool :=
  guarded (payloadLen ≥ 2) do
    let b0 ← readByte buf 60
    guarded (b0 = first) do
      let b1 ← readByte buf 61
      pure (decide (b1 = second))

/-- `is_xbox_action`. -/
def readIsXboxAction (frame : RxFrame) : Reading Bool :=
  guarded (frame.fcType = 0 ∧ frame.fcSubtype = 13 ∧ frame.payloadLen ≥ 5) do
    let b0 ← readByte buf 60
    guarded (b0 = 0x7f) do
      let b1 ← readByte buf 61
      guarded (b1 = 0x00) do
        let b2 ← readByte buf 62
        guarded (b2 = 0x17) do
          let b3 ← readByte buf 63
          guarded (b3 = 0xf2) do
            let b4 ← readByte buf 64
            pure (decide (b4 = 0x08))

variable (now : UInt64) (frame : RxFrame)

/-- The answer to a directed probe request. -/
def readProbe (daemon : Daemon) : Reading Daemon := do
  let locked := { daemon with air := lockPairingChannel now daemon.air }
  let emptySsid ← readStarts buf frame.payloadLen 0x00 0x00
  pure (if emptySsid then
      sendProbeResponse world frame.src locked.air.ourMac locked.air.pairingChannel locked
    else locked)

/-- The payload bytes the log line of an unknown pairing request prints: at most two. -/
def readPairHead (known : Bool) (payloadLen : Int) : Reading (List UInt8) :=
  if known then pure [] else Reading.cells (byteAt buf) 60 (min payloadLen 2).toNat

/-- A pairing request. -/
def readPair (daemon : Daemon) : Reading Daemon := do
  let locked := { daemon with air := lockPairingChannel now daemon.air }
  let stage1 ← readStarts buf frame.payloadLen 0x70 0x01
  let stage2 ← readStarts buf frame.payloadLen 0x70 0x04
  let _ ← readPairHead buf (stage1 || stage2) frame.payloadLen
  pure (if stage1 then
      let answered := sendPairResponse world frame.src locked.air.ourMac locked.air
      { locked with air :=
          if ¬world.env.multiPairMode then setPairingBeacon world false answered
          else if activeSlotCount locked.pads < maxSlots then setPairingBeacon world true answered
          else answered }
    else locked)

/-- The algorithm `send_auth_response` mirrors. -/
def readAlgorithm (payloadLen : Int) : Reading UInt16 :=
  if payloadLen ≥ 2 then read16 buf 60 else pure 0x0000

/-- Its sequence number. -/
def readSequence (payloadLen : Int) : Reading UInt16 :=
  if payloadLen ≥ 4 then do
    let reqSeq ← read16 buf 62
    pure (if reqSeq ≠ 0 then reqSeq + 1 else 0x0002)
  else pure 0x0002

/-- The frame of `send_auth_response`. -/
def readAuthResponse (dst ourMac : Mac) (payloadLen : Int) (reqSubtype : UInt8) :
    Reading (List UInt8) :=
  if reqSubtype = 7 then pure (mgmtHeader 0x70 dst ourMac ++ store16 0x0170 ++ store16 0x0002)
  else do
    let algorithm ← readAlgorithm buf payloadLen
    let sequence ← readSequence buf payloadLen
    pure (mgmtHeader 0xb0 dst ourMac ++ store16 algorithm ++ store16 sequence ++ store16 0x0000)

/-- An authentication request. -/
def readAuth (daemon : Daemon) : Reading Daemon := do
  let locked := { daemon with air := lockPairingChannel now daemon.air }
  let response ← readAuthResponse buf frame.src locked.air.ourMac frame.payloadLen frame.fcSubtype
  pure (if frame.fcSubtype = 7 then { locked with air := transmit world response 0xff locked.air }
    else
      let peer := rememberPeer world frame.src locked
      { peer.2 with
        air := transmit world response (wcidOr0xff peer.1 peer.2.table) peer.2.air })

/-! ## The reader -/

/-- `mac_has_xbox_prefix`. -/
def macHasXboxPrefix (mac : Mac) : Prop :=
  mac.b0 = 0x62 ∧ mac.b1 = 0x45 ∧ mac.b2 = 0xbd

instance (mac : Mac) : Decidable (macHasXboxPrefix mac) :=
  inferInstanceAs (Decidable (_ ∧ _))

variable (verboseAir : Bool)

/-- `should_log_frame`. -/
def RxFrame.ShouldLog (ourMac : Mac) : Prop :=
  ¬(frame.fcType = 0 ∧ frame.fcSubtype = 13 ∧ ¬frame.ToUs ourMac ∧ macIsAwdlBssid frame.bss ∧
      verboseAir = false) ∧
    (verboseAir = true ∨ frame.ToUs ourMac ∨
      (macHasXboxPrefix frame.src ∨ macHasXboxPrefix frame.dst ∨ macHasXboxPrefix frame.bss) ∨
      frame.fcType = 0 ∧ (frame.fcSubtype = 0 ∨ frame.fcSubtype = 1 ∨ frame.fcSubtype = 4 ∨
        frame.fcSubtype = 5 ∨ frame.fcSubtype = 13))

instance (ourMac : Mac) : Decidable (frame.ShouldLog verboseAir ourMac) :=
  inferInstanceAs (Decidable (_ ∧ _))

/-- The payload bytes the log line of a frame prints: at most 48. -/
def readLog (ourMac : Mac) : Reading (List UInt8) :=
  if frame.ShouldLog verboseAir ourMac ∧ frame.payloadLen > 0 then
    Reading.cells (byteAt buf) 60 (min frame.payloadLen 48).toNat
  else pure []

/-- The data handler behind its test. -/
def readIfData (ourMac : Mac) (daemon : Daemon) : Reading Daemon :=
  if frame.QosData ourMac then readData buf world frame.src 60 frame.payloadLen daemon
  else pure daemon

/-- The action handlers behind their tests. They do not look at the payload. -/
def readIfAction (ourMac : Mac) (daemon : Daemon) : Reading Daemon := do
  let isXboxAction ← readIsXboxAction buf frame
  pure (if isXboxAction = true ∧ frame.ToUs ourMac then
      onXboxAction world frame.src frame.payloadLen daemon
    else if isXboxAction = true ∧ macIsAwdlBssid frame.bss then
      { daemon with air := logAwdlIgnored now daemon.air }
    else daemon)

/-- A handler of management frames behind its test. -/
def readIfMgmt (subtype : UInt8) (ourMac : Mac) (handler : Daemon → Reading Daemon)
    (daemon : Daemon) : Reading Daemon :=
  if frame.Mgmt subtype ourMac then handler daemon else pure daemon

/-- The WLAN branch of `reader_thread`. -/
def readFrame (daemon : Daemon) : Reading Daemon := do
  let ourMac := daemon.air.ourMac
  let _ ← readLog buf frame verboseAir ourMac
  let daemon ← readIfData buf world frame ourMac daemon
  let daemon ← readIfAction buf world now frame ourMac daemon
  let daemon ← readIfMgmt frame 4 ourMac (readProbe buf world now frame) daemon
  let daemon ← readIfMgmt frame 7 ourMac (readPair buf world now frame) daemon
  let daemon ← readIfMgmt frame 11 ourMac (readAuth buf world now frame) daemon
  -- association requests are told by their header alone
  let daemon ← readIfMgmt frame 0 ourMac
    (fun daemon => pure (handleAssoc world now frame false daemon)) daemon
  readIfMgmt frame 2 ourMac
    (fun daemon => pure (handleAssoc world now frame true daemon)) daemon

variable (n : Nat)

/-- The header of a WLAN frame: a frame without its payload. -/
def readHeader : Reading RxFrame := do
  let fc ← read16 buf 36
  let rxwiWord1 ← read32 buf 8
  let dst ← readMac buf 40
  let src ← readMac buf 46
  let bss ← readMac buf 52
  pure {
    fcType := ((fc >>> 2) &&& 3).toUInt8
    fcSubtype := ((fc >>> 4) &&& 0xf).toUInt8
    rxWcid := (rxwiWord1 &&& 0xff).toUInt8
    dst := dst
    src := src
    bss := bss
    pl := []
    payloadLen := (n : Int) - 60 - 4 }

/-- `lost_wcid` of an `EVT_CLIENT_LOST` event. -/
def readLost? (rxinfo : UInt32) : Reading (Option UInt8) :=
  if infoType rxinfo = 1 ∧ infoPort rxinfo = 1 ∧ world.env.handleClientLost ∧
      eventType rxinfo = 0x0e ∧ n ≥ 8 then do
    let lostWcid ← readByte buf 4
    pure (some lostWcid)
  else pure none

/-- The branch for events of the dongle's CPU, which prints up to 24 bytes. -/
def readEvent (rxinfo : UInt32) (daemon : Daemon) : Reading Daemon := do
  let lost ← readLost? buf world n rxinfo
  let _ ← Reading.cells (byteAt buf) 0 (min n 24)
  pure (match lost with
    | some lostWcid =>
        if lostWcid > 0 ∧ lostWcid < 9 then
          let pads := onDisconnect world.eventUdp (lostWcid - 1) daemon.pads
          { daemon with
            pads := pads
            air := if world.env.multiPairMode then setPairingBeacon world true daemon.air
              else daemon.air }
        else daemon
    | none =>
        if infoType rxinfo = 1 ∧ infoPort rxinfo = 1 ∧ eventType rxinfo = 0x04 then
          { daemon with air := setPairingBeacon world true daemon.air }
        else daemon)

/-- `reader_thread` on a transfer that filled the first `n` bytes of `buf`. -/
def readTransfer (daemon : Daemon) : Reading Daemon :=
  if n < 8 then pure daemon
  else do
    let rxinfo ← read32 buf 0
    if isWlanRx rxinfo ∧ n ≥ 60 then do
      let frame ← readHeader buf n
      readFrame buf world now frame verboseAir daemon
    else readEvent buf world n rxinfo daemon

end

/-! ## Loads within the transfer -/

section

variable (buf : List UInt8) {n p : Nat}

theorem readByte_within (hp : p < n) : Within n (byteAt (buf.take n) p) (readByte buf p) := by
  rw [byteAt_take buf hp]
  exact Within.cell _ hp

theorem read16_within (hp : p + 2 ≤ n) : Within n (load16 ((buf.take n).drop p)) (read16 buf p) := by
  have hvalue : load16 ((buf.take n).drop p) =
      load16 [byteAt (buf.take n) p, byteAt (buf.take n) (p + 1)] := by
    simp only [load16, byteAt_drop]
    rfl
  rw [hvalue]
  apply (readByte_within buf (by omega)).bind
  apply (readByte_within buf (by omega)).bind
  exact Within.pure n _

theorem read32_within (hp : p + 4 ≤ n) : Within n (load32 ((buf.take n).drop p)) (read32 buf p) := by
  have hvalue : load32 ((buf.take n).drop p) =
      load32 [byteAt (buf.take n) p, byteAt (buf.take n) (p + 1), byteAt (buf.take n) (p + 2),
        byteAt (buf.take n) (p + 3)] := by
    simp only [load32, byteAt_drop]
    rfl
  rw [hvalue]
  apply (readByte_within buf (by omega)).bind
  apply (readByte_within buf (by omega)).bind
  apply (readByte_within buf (by omega)).bind
  apply (readByte_within buf (by omega)).bind
  exact Within.pure n _

theorem readMac_within (hp : p + 6 ≤ n) :
    Within n (Mac.load ((buf.take n).drop p)) (readMac buf p) := by
  simp only [Mac.load, byteAt_drop]
  apply (readByte_within buf (by omega)).bind
  apply (readByte_within buf (by omega)).bind
  apply (readByte_within buf (by omega)).bind
  apply (readByte_within buf (by omega)).bind
  apply (readByte_within buf (by omega)).bind
  apply (readByte_within buf (by omega)).bind
  exact Within.pure n _

theorem readGipHeader_within (hp : p + 4 ≤ n) :
    Within n (gipHeader ((buf.take n).drop p)) (readGipHeader buf p) := by
  simp only [gipHeader, byteAt_drop]
  apply (readByte_within buf (by omega)).bind
  apply (readByte_within buf (by omega)).bind
  apply (readByte_within buf (by omega)).bind
  apply (readByte_within buf (by omega)).bind
  exact Within.pure n _

/-- Bytes that are only printed. -/
theorem then_within {α : Type} {v : α} {r : Reading α} {count : Nat} (hend : p + count ≤ n)
    (hr : Within n v r) : Within n v (Reading.cells (byteAt buf) p count >>= fun _ => r) := by
  obtain ⟨values, hvalues⟩ := Within.cells (byteAt buf) hend
  exact hvalues.bind hr

/-! ## Input packets within the transfer -/

theorem readInput14_within (hp : p + 14 ≤ n) :
    Within n (parseInput14 ((buf.take n).drop p)) (readInput14 buf p) := by
  simp only [parseInput14, List.drop_drop]
  apply (read16_within buf (by omega)).bind
  apply (read16_within buf (by omega)).bind
  apply (read16_within buf (by omega)).bind
  apply (read16_within buf (by omega)).bind
  apply (read16_within buf (by omega)).bind
  apply (read16_within buf (by omega)).bind
  apply (read16_within buf (by omega)).bind
  exact Within.pure n _

theorem readInput16_within (hp : p + 16 ≤ n) :
    Within n (parseInput16 ((buf.take n).drop p)) (readInput16 buf p) := by
  simp only [parseInput16, List.drop_drop]
  apply (read32_within buf (by omega)).bind
  apply (read16_within buf (by omega)).bind
  apply (read16_within buf (by omega)).bind
  apply (read16_within buf (by omega)).bind
  apply (read16_within buf (by omega)).bind
  apply (read16_within buf (by omega)).bind
  apply (read16_within buf (by omega)).bind
  exact Within.pure n _

/-- The wrapper is looked for only in payloads that have room for it, and what is left of the
payload ends where the payload does. -/
theorem readUnwrapped_within {plen : UInt8} (hp : p + plen.toNat ≤ n) :
    ∃ input : Nat × UInt8, Within n input (readUnwrapped buf p plen) ∧
      unwrapInput ((buf.take n).drop p) plen = ((buf.take n).drop input.1, input.2) ∧
      input.1 + input.2.toNat ≤ n := by
  have hroom : plen ≥ 24 → 24 ≤ plen.toNat := fun hplen => UInt8.le_iff_toNat_le.mp hplen
  have hwrapped : Within n
      (decide (plen ≥ 24) && (decide (byteAt (buf.take n) (p + 4) = gipCmdInput) &&
        decide (byteAt (buf.take n) (p + 7) ≥ 14)))
      (guarded (plen ≥ 24) do
        let command ← readByte buf (p + 4)
        guarded (command = gipCmdInput) do
          let length ← readByte buf (p + 7)
          pure (decide (length ≥ 14))) := by
    apply Within.guarded
    intro hplen
    have hlong := hroom (of_decide_eq_true hplen)
    apply (readByte_within buf (by omega)).bind
    apply Within.guarded
    intro _
    apply (readByte_within buf (by omega)).bind
    exact Within.pure n _
  refine ⟨_, hwrapped.bind (Within.pure n _), ?_⟩
  simp only [unwrapInput, byteAt_drop, Bool.and_eq_true, decide_eq_true_eq, List.drop_drop]
  split
  next hlong =>
    have hlen := hroom hlong.1
    have height : (8 : UInt8).toNat = 8 := rfl
    have hsub : (plen - 8).toNat = plen.toNat - 8 :=
      UInt8.toNat_sub_of_le _ _ (by rw [UInt8.le_iff_toNat_le]; omega)
    refine ⟨rfl, ?_⟩
    dsimp only
    omega
  next => exact ⟨rfl, hp⟩

theorem readParsed_within {plen : UInt8} (hp : p + plen.toNat ≤ n) :
    Within n (parseInput ((buf.take n).drop p) plen) (readParsed buf p plen) := by
  obtain ⟨input, hunwrapped, hinput, hend⟩ := readUnwrapped_within buf hp
  simp only [parseInput, hinput]
  apply hunwrapped.bind
  apply Within.ite
  · exact fun _ => Within.pure n _
  intro hshort
  rw [UInt8.lt_iff_toNat_lt, Nat.not_lt] at hshort
  have hfourteen : (14 : UInt8).toNat = 14 := rfl
  apply (readInput14_within buf (by omega)).bind
  by_cases hlong : input.2 ≥ 16
  · have hsixteen := UInt8.le_iff_toNat_le.mp hlong
    have hval : (16 : UInt8).toNat = 16 := rfl
    simp only [hlong, true_and, if_true]
    rw [← apply_ite some]
    apply (readInput16_within buf (by omega)).bind
    exact Within.pure n _
  · simp only [hlong, false_and, if_false]
    exact Within.pure n _

variable (world : World)

theorem readInput_within (client : UInt8) {plen : UInt8} (pads : Pads) (hp : p + plen.toNat ≤ n) :
    Within n (onInput world.eventUdp client ((buf.take n).drop p) plen pads)
      (readInput buf world client p plen pads) := by
  simp only [onInput, readInput]
  cases slotIdx? client with
  | none => exact Within.pure n _
  | some i =>
      apply Within.ite
      · intro _
        apply (readParsed_within buf hp).bind
        exact Within.pure n _
      · exact fun _ => Within.pure n _

/-! ## Frames within the transfer -/

/-- The declared length is cut to what is there, also where it is cast to a byte. -/
theorem plen_le (h : GipHeader) {avail : Int} (havail : 0 ≤ avail) :
    ((h.plen avail).toNat : Int) ≤ avail := by
  have hlt := h.length.toNat_lt
  have hofInt (x : Int) (hx : 0 ≤ x ∧ x < 256) : ((UInt8.ofInt x).toNat : Int) = x := by
    rw [UInt8.ofInt, UInt8.toNat_ofNat', Int.emod_eq_of_lt (by omega) (by omega)]
    omega
  unfold GipHeader.plen
  split
  · rw [hofInt _ (by omega)]
    omega
  · rw [hofInt _ (by omega)]

theorem readDispatch_within (i : Fin maxPeers) (slot : UInt8) {gipLen : Int} (daemon : Daemon)
    (hp : (p : Int) + gipLen ≤ n) :
    Within n (dispatchWlanGip world i slot ((buf.take n).drop p) gipLen daemon)
      (readDispatch buf world i slot p gipLen daemon) := by
  apply Within.ite
  · exact fun _ => Within.pure n _
  intro hgo
  obtain ⟨-, hlong⟩ := not_or.mp hgo
  apply (readGipHeader_within buf (by omega)).bind
  have havail : 0 ≤ gipLen - 4 := by omega
  have hplen := plen_le (gipHeader ((buf.take n).drop p)) havail
  apply Within.ite
  · exact fun _ => Within.pure n _
  intro _
  apply Within.ite
  · exact fun _ => Within.pure n _
  intro _
  apply Within.ite
  · exact fun _ => Within.pure n _
  intro _
  apply Within.ite
  · exact fun _ => Within.pure n _
  intro _
  apply Within.ite
  · -- the payload ends within the transfer
    intro _
    rw [List.drop_drop]
    apply (readInput_within buf world slot _ (by omega)).bind
    exact Within.pure n _
  intro _
  apply Within.ite
  · intro _
    apply Within.ite
    · intro hguide
      have hone := UInt8.le_iff_toNat_le.mp hguide
      have hval : (1 : UInt8).toNat = 1 := rfl
      rw [byteAt_drop]
      apply (readByte_within buf (by omega)).bind
      exact Within.pure n _
    · exact fun _ => Within.pure n _
  · exact fun _ => Within.pure n _

theorem readData_within (src : Mac) (rxWcid : UInt8) {plen : Int} (daemon : Daemon)
    (hp : (p : Int) + plen ≤ n) :
    Within n (onXboxData world src rxWcid ((buf.take n).drop p) plen daemon)
      (readData buf world src p plen daemon) := by
  apply Within.ite
  · exact fun _ => Within.pure n _
  intro _
  cases hfound : (findOrRemember world src daemon).1 with
  | none =>
      simp only [hfound]
      exact Within.pure n _
  | some i =>
      simp only [hfound]
      apply Within.ite
      · exact fun _ => Within.pure n _
      intro _
      rw [List.drop_drop]
      exact readDispatch_within buf world i _ _ (by omega)

theorem readStarts_within {payloadLen : Int} (hlen : payloadLen ≤ (n : Int) - 64)
    (first second : UInt8) :
    Within n (decide (payloadLen ≥ 2 ∧ byteAt ((buf.take n).drop 60) 0 = first ∧
        byteAt ((buf.take n).drop 60) 1 = second)) (readStarts buf payloadLen first second) := by
  simp only [Bool.decide_and, byteAt_drop]
  apply Within.guarded
  intro hlong
  have htwo := of_decide_eq_true hlong
  apply (readByte_within buf (by omega)).bind
  apply Within.guarded
  intro _
  apply (readByte_within buf (by omega)).bind
  exact Within.pure n _

/-- A frame as the reader finds it in the buffer. -/
structure Delivered (n : Nat) (frame : RxFrame) : Prop where
  pl : frame.pl = (buf.take n).drop 60
  payloadLen : frame.payloadLen = (n : Int) - 64

/-- The header of a frame. -/
def RxFrame.header (frame : RxFrame) : RxFrame := { frame with pl := [] }

variable {frame : RxFrame}

theorem readIsXboxAction_within (hdelivered : Delivered buf n frame) :
    Within n (decide frame.IsXboxAction) (readIsXboxAction buf frame.header) := by
  obtain ⟨hpl, hlen⟩ := hdelivered
  have hvalue : decide frame.IsXboxAction =
      (decide (frame.fcType = 0 ∧ frame.fcSubtype = 13 ∧ frame.payloadLen ≥ 5) &&
        (decide (byteAt (buf.take n) 60 = 0x7f) && (decide (byteAt (buf.take n) 61 = 0x00) &&
          (decide (byteAt (buf.take n) 62 = 0x17) && (decide (byteAt (buf.take n) 63 = 0xf2) &&
            decide (byteAt (buf.take n) 64 = 0x08)))))) := by
    simp only [RxFrame.IsXboxAction, hpl, byteAt_drop, ← Bool.decide_and, and_assoc]
  rw [hvalue]
  apply Within.guarded
  intro haction
  obtain ⟨-, -, hlong⟩ := of_decide_eq_true haction
  apply (readByte_within buf (by omega)).bind
  apply Within.guarded
  intro _
  apply (readByte_within buf (by omega)).bind
  apply Within.guarded
  intro _
  apply (readByte_within buf (by omega)).bind
  apply Within.guarded
  intro _
  apply (readByte_within buf (by omega)).bind
  apply Within.guarded
  intro _
  apply (readByte_within buf (by omega)).bind
  exact Within.pure n _

variable (now : UInt64) (daemon : Daemon)

theorem readProbe_within (hdelivered : Delivered buf n frame) :
    Within n (handleProbe world now frame daemon)
      (readProbe buf world now frame.header daemon) := by
  have hstarts := readStarts_within buf (le_of_eq hdelivered.payloadLen) 0x00 0x00
  simp only [handleProbe, hdelivered.pl]
  apply hstarts.bind
  simp only [decide_eq_true_eq]
  exact Within.pure n _

theorem readPair_within (hdelivered : Delivered buf n frame) :
    Within n (handlePair world now frame daemon)
      (readPair buf world now frame.header daemon) := by
  have hlen := hdelivered.payloadLen
  have hstage (stage : UInt8) := readStarts_within buf (le_of_eq hlen) 0x70 stage
  have hhead (known : Bool) :
      ∃ values, Within n values (readPairHead buf known frame.payloadLen) := by
    cases known with
    | true => exact ⟨[], Within.pure n []⟩
    | false => 
        by_cases hneg : frame.payloadLen ≤ 0
        · have hzero : (min frame.payloadLen 2).toNat = 0 := by omega
          refine ⟨[], ?_⟩
          simp only [readPairHead, hzero]
          exact Within.pure n []
        · exact Within.cells (byteAt buf) (by omega)
  simp only [handlePair, hdelivered.pl]
  apply (hstage 0x01).bind
  apply (hstage 0x04).bind
  obtain ⟨values, hvalues⟩ := hhead _
  apply hvalues.bind
  simp only [decide_eq_true_eq]
  exact Within.pure n _

theorem readAuthResponse_within (hdelivered : Delivered buf n frame) (dst ourMac : Mac) :
    Within n (authResponse dst ourMac frame.pl frame.payloadLen frame.fcSubtype)
      (readAuthResponse buf dst ourMac frame.payloadLen frame.fcSubtype) := by
  have hlen := hdelivered.payloadLen
  have halgorithm : Within n (if frame.payloadLen ≥ 2 then load16 frame.pl else 0x0000)
      (readAlgorithm buf frame.payloadLen) := by
    rw [hdelivered.pl]
    apply Within.ite
    · exact fun _ => read16_within buf (by omega)
    · exact fun _ => Within.pure n _
  have hsequence : Within n
      (if frame.payloadLen ≥ 4 ∧ load16 (frame.pl.drop 2) ≠ 0 then load16 (frame.pl.drop 2) + 1
        else 0x0002)
      (readSequence buf frame.payloadLen) := by
    rw [hdelivered.pl, List.drop_drop, ite_and]
    apply Within.ite
    · intro _
      apply (read16_within buf (by omega)).bind
      exact Within.pure n _
    · exact fun _ => Within.pure n _
  apply Within.ite
  · exact fun _ => Within.pure n _
  intro _
  apply halgorithm.bind
  apply hsequence.bind
  exact Within.pure n _

theorem readAuth_within (hdelivered : Delivered buf n frame) :
    Within n (handleAuth world now frame daemon)
      (readAuth buf world now frame.header daemon) := by
  apply (readAuthResponse_within buf hdelivered frame.src _).bind
  exact Within.pure n _

theorem readLog_within (verboseAir : Bool) (ourMac : Mac) (hdelivered : Delivered buf n frame) :
    ∃ values, Within n values (readLog buf frame.header verboseAir ourMac) := by
  have hlen : frame.header.payloadLen = (n : Int) - 64 := hdelivered.payloadLen
  unfold readLog
  split
  next hlog =>
    obtain ⟨-, hpositive⟩ := hlog
    exact Within.cells (byteAt buf) (by omega)
  next => exact ⟨[], Within.pure n []⟩

theorem readIfData_within (ourMac : Mac) (hdelivered : Delivered buf n frame) :
    Within n
      (if frame.QosData ourMac then
        onXboxData world frame.src frame.rxWcid frame.pl frame.payloadLen daemon
      else daemon)
      (readIfData buf world frame.header ourMac daemon) := by
  have hlen := hdelivered.payloadLen
  rw [hdelivered.pl]
  apply Within.ite
  · intro _
    exact readData_within buf world frame.src frame.rxWcid daemon (by omega)
  · exact fun _ => Within.pure n _

theorem readIfAction_within (ourMac : Mac) (hdelivered : Delivered buf n frame) :
    Within n
      (if frame.IsXboxAction ∧ frame.ToUs ourMac then
        onXboxAction world frame.src frame.payloadLen daemon
      else if frame.IsXboxAction ∧ macIsAwdlBssid frame.bss then
        { daemon with air := logAwdlIgnored now daemon.air }
      else daemon)
      (readIfAction buf world now frame.header ourMac daemon) := by
  apply (readIsXboxAction_within buf hdelivered).bind
  simp only [decide_eq_true_eq]
  exact Within.pure n _

theorem readIfMgmt_within (subtype : UInt8) (ourMac : Mac) {handler : Daemon → Daemon}
    {reader : Daemon → Reading Daemon} (hreader : Within n (handler daemon) (reader daemon)) :
    Within n (if frame.Mgmt subtype ourMac then handler daemon else daemon)
      (readIfMgmt frame.header subtype ourMac reader daemon) := by
  apply Within.ite
  · exact fun _ => hreader
  · exact fun _ => Within.pure n _

/-- The handlers run one after the other; each reads within the frame. -/
theorem readFrame_within (verboseAir : Bool) (hdelivered : Delivered buf n frame) :
    Within n (handleFrame world now frame daemon)
      (readFrame buf world now frame.header verboseAir daemon) := by
  obtain ⟨values, hlog⟩ := readLog_within buf verboseAir daemon.air.ourMac hdelivered
  apply hlog.bind
  apply (readIfData_within buf world daemon daemon.air.ourMac hdelivered).bind
  apply (readIfAction_within buf world now _ daemon.air.ourMac hdelivered).bind
  apply (readIfMgmt_within _ 4 _ (readProbe_within buf world now _ hdelivered)).bind
  apply (readIfMgmt_within _ 7 _ (readPair_within buf world now _ hdelivered)).bind
  apply (readIfMgmt_within _ 11 _ (readAuth_within buf world now _ hdelivered)).bind
  apply (readIfMgmt_within _ 0 _ (Within.pure n _)).bind
  exact readIfMgmt_within _ 2 _ (Within.pure n _)

/-! ## Transfers -/

/-- A transfer that filled the first `n` bytes of the buffer. -/
def Transfer.received (buf : List UInt8) (n : Nat) (hn : n ≤ usbBufSize) : Transfer where
  bytes := buf.take n
  fits := by
    rw [List.length_take]
    omega

variable (hbuf : n ≤ buf.length) (hn : n ≤ usbBufSize)

include hbuf in
theorem length_received : (Transfer.received buf n hn).bytes.length = n :=
  List.length_take_of_le hbuf

include hbuf in
theorem rxFrame?_received :
    (rxFrame? (Transfer.received buf n hn)).isSome ↔ isWlanRx (load32 (buf.take n)) ∧ n ≥ 60 := by
  rw [rxFrame?, length_received buf hbuf hn]
  split
  next hwlan => exact ⟨fun _ => hwlan, fun _ => rfl⟩
  next hother => exact ⟨fun hsome => absurd hsome Bool.false_ne_true, fun h => absurd h hother⟩

include hbuf in
/-- Sixty bytes are enough for the header, and the payload is what follows them. -/
theorem readHeader_within (hframe : rxFrame? (Transfer.received buf n hn) = some frame) :
    Delivered buf n frame ∧ Within n frame.header (readHeader buf n) := by
  have hlength := length_received buf hbuf hn
  unfold rxFrame? at hframe
  split at hframe
  next hwlan =>
    have hsixty : 60 ≤ n := hlength ▸ hwlan.2
    rw [hlength] at hframe
    cases hframe
    refine ⟨⟨rfl, by dsimp only; omega⟩, ?_⟩
    simp only [RxFrame.header, List.drop_drop]
    apply (read16_within buf (by omega)).bind
    apply (read32_within buf (by omega)).bind
    apply (readMac_within buf (by omega)).bind
    apply (readMac_within buf (by omega)).bind
    apply (readMac_within buf (by omega)).bind
    exact Within.pure n _
  next => exact absurd hframe (by simp)

include hbuf in
theorem readEvent_within (height : 8 ≤ n) :
    Within n (handleEvent world (Transfer.received buf n hn) daemon)
      (readEvent buf world n (load32 (buf.take n)) daemon) := by
  have hlost : Within n (clientLost? world.env (Transfer.received buf n hn))
      (readLost? buf world n (load32 (buf.take n))) := by
    simp only [clientLost?, length_received buf hbuf hn]
    apply Within.ite
    · intro _
      apply (readByte_within buf (by omega)).bind
      exact Within.pure n _
    · exact fun _ => Within.pure n _
  apply hlost.bind
  apply then_within buf (by omega)
  unfold handleEvent
  cases clientLost? world.env (Transfer.received buf n hn) <;> exact Within.pure n _

/-- The reader never looks past the transfer. -/
theorem reads_below_transfer (verboseAir : Bool) (hbuf : buf.length = usbBufSize) :
    (∀ addr ∈ (readTransfer buf world now verboseAir n daemon).reads, addr < n) ∧
      (readTransfer buf world now verboseAir n daemon).val =
        handleTransfer world now (Transfer.received buf n hn) daemon := by
  have hroom : n ≤ buf.length := hbuf ▸ hn
  have hlength := length_received buf hroom hn
  suffices hwithin : Within n (handleTransfer world now (Transfer.received buf n hn) daemon)
      (readTransfer buf world now verboseAir n daemon) from ⟨hwithin.below, hwithin.val⟩
  simp only [handleTransfer, readTransfer, hlength]
  apply Within.ite
  · exact fun _ => Within.pure n _
  intro hshort
  apply (read32_within buf (by omega : 0 + 4 ≤ n)).bind
  rw [List.drop_zero]
  have hwlan := rxFrame?_received buf hroom hn
  cases hframe : rxFrame? (Transfer.received buf n hn) with
  | some frame =>
      rw [hframe] at hwlan
      obtain ⟨hdelivered, hheader⟩ := readHeader_within buf hroom hn hframe
      rw [if_pos (hwlan.mp rfl)]
      apply hheader.bind
      exact readFrame_within buf world now daemon verboseAir hdelivered
  | none =>
      rw [hframe] at hwlan
      rw [if_neg (mt hwlan.mpr Bool.false_ne_true)]
      exact readEvent_within buf world daemon hroom hn (by omega)

end

/-- A frame cut short in its header: 62 bytes, and a payload length of -2. -/
theorem reads_below_transfer_negative :
    let buf := store32 ((1 : UInt32) <<< 19) ++ List.replicate 4092 0
    (∀ addr ∈ (readTransfer buf (romWorld plainRom) 7 false 62 plainBoot).reads, addr < 62) ∧
      (readTransfer buf (romWorld plainRom) 7 false 62 plainBoot).val =
        handleTransfer (romWorld plainRom) 7 (Transfer.received buf 62 (by decide)) plainBoot :=
  reads_below_transfer _ (romWorld plainRom) 7 plainBoot (by decide) false
    (by rw [List.length_append, List.length_replicate]; rfl)

end XoneDarwin
