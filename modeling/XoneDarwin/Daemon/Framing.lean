import XoneDarwin.Daemon.Session

/-!
# Outgoing GIP commands and their three layers

A command is put into a GIP packet, the packet into an 802.11 frame with a TxWi in
front, and both into an MCU packet. `readGipTx?` takes the layers off again, by
their own length fields, and reads the GIP packet as the daemon reads those it
receives.
-/

namespace XoneDarwin

/-! ## The decoder -/

/-- The fields of a TxInfo word. -/
def txType (packet : List UInt8) : Nat := (load32 packet).toNat / 0x40000000

def txPort (packet : List UInt8) : Nat := (load32 packet).toNat / 0x8000000 % 8

def txCommand (packet : List UInt8) : Nat := (load32 packet).toNat / 0x100000 % 128

def txLength (packet : List UInt8) : Nat := (load32 packet).toNat % 0x10000

/-- A big-endian word. -/
def load32be (p : List UInt8) : UInt32 :=
  load32 (p.take 4).reverse

/-- The MPDU byte count of the TxWi in the body of a packet. -/
def mpduCount (body : List UInt8) : Nat :=
  (byteAt body 14).toNat + 0x100 * ((byteAt body 15).toNat % 64)

/-- The GIP packet behind index, zero word, TxWi, 802.11 header and alignment pad. -/
def gipOf (body : List UInt8) : List UInt8 :=
  (body.drop 56).take (mpduCount body - 26)

/-- A GIP command on its way to a controller. -/
structure GipTx where
  index : Nat
  dst : Mac
  src : Mac
  bssid : Mac
  command : UInt8
  deviceId : UInt8
  frameType : UInt8
  sequence : UInt8
  payload : List UInt8
  deriving DecidableEq

/-- The command in the body of a `CMD_PACKET_TX` packet. -/
def GipTx.ofBody (body : List UInt8) : GipTx :=
  let gip := gipOf body
  let h := gipHeader gip
  { index := (load32be body).toNat
    dst := Mac.load (body.drop 32)
    src := Mac.load (body.drop 38)
    bssid := Mac.load (body.drop 44)
    command := h.command
    deviceId := h.deviceId
    frameType := h.frameType
    sequence := h.sequence
    payload := (gip.drop 4).take (h.plen (gip.length - 4)).toNat }

/-- The command in a `CMD_PACKET_TX` packet for the CPU port whose length field is right. -/
def readGipTx? (packet : List UInt8) : Option GipTx :=
  if txType packet = 1 ∧ txPort packet = 2 ∧ txCommand packet = 0 ∧
      txLength packet + 8 = packet.length then
    some (GipTx.ofBody (packet.drop 4))
  else none

/-! ## Layer by layer -/

/-- The TxInfo word of a packet to the MCU. -/
theorem mcuPacket_fields {cmd : UInt8} {data : List UInt8} (hcmd : cmd.toNat < 128)
    (hdata : data.length < 0x10000 - 3) :
    txType (mcuPacket cmd data) = 1 ∧ txPort (mcuPacket cmd data) = 2 ∧
      txCommand (mcuPacket cmd data) = cmd.toNat ∧
      txLength (mcuPacket cmd data) = data.length + pad4 data.length := by
  have hpad := pad4_lt data.length
  have hinfo := mcuTxinfo_toNat hcmd hdata
  simp only [txType, txPort, txCommand, txLength, mcuPacket, load32_store32, hinfo]
  omega

theorem length_mcuPacket (cmd : UInt8) (data : List UInt8) :
    (mcuPacket cmd data).length = data.length + pad4 data.length + 8 := by
  simp only [mcuPacket, List.length_append, length_store32, List.length_replicate]
  omega

theorem drop_mcuPacket (cmd : UInt8) (data : List UInt8) :
    ∃ rest, (mcuPacket cmd data).drop 4 = data ++ rest :=
  ⟨List.replicate (pad4 data.length) 0 ++ List.replicate 4 0, List.append_assoc _ _ _⟩

theorem load32be_reverse (x : UInt32) (rest : List UInt8) :
    load32be ((store32 x).reverse ++ rest) = x := by
  have hword : ((store32 x).reverse ++ rest).take 4 = (store32 x).reverse :=
    List.take_left' (by simp)
  have hload := load32_store32 x []
  rw [List.append_nil] at hload
  rw [load32be, hword, List.reverse_reverse, hload]

section

variable (peer : Peer) (ourMac : Mac) (gip rest : List UInt8)

theorem gipTxPayload_index :
    load32be (gipTxPayload peer ourMac gip ++ rest) = UInt32.ofInt (peer.wcid.toNat - 1) := by
  simp only [gipTxPayload, gipTxHeader, List.append_assoc]
  exact load32be_reverse _ _

theorem gipTxPayload_addresses :
    Mac.load ((gipTxPayload peer ourMac gip ++ rest).drop 32) = peer.mac ∧
      Mac.load ((gipTxPayload peer ourMac gip ++ rest).drop 38) = ourMac ∧
      Mac.load ((gipTxPayload peer ourMac gip ++ rest).drop 44) = ourMac :=
  ⟨rfl, rfl, rfl⟩

/-- The TxWi counts the 802.11 header and the GIP packet. -/
theorem gipTxPayload_count (hgip : gip.length ≤ 68) :
    mpduCount (gipTxPayload peer ourMac gip ++ rest) = 26 + gip.length := by
  have hcount : (UInt16.ofNat (26 + gip.length)).toNat = 26 + gip.length := by
    rw [UInt16.toNat_ofNat']
    omega
  have hlow : byteAt (gipTxPayload peer ourMac gip ++ rest) 14 =
      UInt8.ofNat (UInt16.ofNat (26 + gip.length)).toNat := rfl
  have hhigh : byteAt (gipTxPayload peer ourMac gip ++ rest) 15 =
      UInt8.ofNat ((UInt16.ofNat (26 + gip.length)).toNat / 0x100) &&& 0x3f := rfl
  have hzero : (26 + gip.length) / 0x100 = 0 := Nat.div_eq_of_lt (by omega)
  rw [mpduCount, hlow, hhigh, hcount, hzero, UInt8.toNat_ofNat']
  simp
  omega

theorem gipOf_gipTxPayload (hgip : gip.length ≤ 68) :
    gipOf (gipTxPayload peer ourMac gip ++ rest) = gip := by
  have hheader : (gipTxHeader peer ourMac (UInt16.ofNat (26 + gip.length))).length = 56 :=
    length_gipTxHeader ourMac peer _
  rw [gipOf, gipTxPayload_count peer ourMac gip rest hgip, Nat.add_sub_cancel_left, gipTxPayload,
    List.append_assoc, List.drop_left' hheader, List.append_assoc, List.take_left' rfl]

end

/-- What `gip_build` puts together. -/
def gipPacket (cmd flags seq plen : UInt8) (payload : List UInt8) : List UInt8 :=
  [cmd, flags, seq, plen] ++ payload

theorem length_gipPacket (cmd flags seq plen : UInt8) (payload : List UInt8) :
    (gipPacket cmd flags seq plen payload).length = 4 + payload.length := by
  simp only [gipPacket, List.length_append, List.length_cons, List.length_nil]

/-- The GIP header comes back, with the payload it declares. -/
theorem gipHeader_gipPacket (cmd flags seq : UInt8) {plen : UInt8} {payload : List UInt8}
    (hplen : plen.toNat = payload.length) :
    gipHeader (gipPacket cmd flags seq plen payload) = ⟨cmd, flags, seq, plen⟩ ∧
      ((gipPacket cmd flags seq plen payload).drop 4).take
        (GipHeader.plen ⟨cmd, flags, seq, plen⟩
          ((gipPacket cmd flags seq plen payload).length - 4)).toNat = payload := by
  refine ⟨rfl, ?_⟩
  have hlt := plen.toNat_lt
  have havail : ((gipPacket cmd flags seq plen payload).length : Int) - 4 = plen.toNat := by
    rw [length_gipPacket]
    omega
  have hcount : GipHeader.plen ⟨cmd, flags, seq, plen⟩ (plen.toNat : Int) = plen := by
    simp only [GipHeader.plen, lt_irrefl, if_false]
    rw [UInt8.ofInt, Int.emod_eq_of_lt (by omega) (by omega), Int.toNat_natCast, UInt8.ofNat_toNat]
  rw [havail, hcount, hplen]
  exact List.take_length

/-- The byte device and type share. -/
def gipFlags (type deviceId : UInt8) : UInt8 :=
  ((type &&& 0x0f) <<< 4) ||| (deviceId &&& 0x0f)

theorem gipFlags_nibbles (type deviceId : UInt8) :
    gipFlags type deviceId &&& 0x0f = deviceId &&& 0x0f ∧
      (gipFlags type deviceId >>> 4) &&& 0x0f = type &&& 0x0f := by
  have hsmall (x : UInt8) : ∃ n : Fin 16, x &&& 0x0f = UInt8.ofNat n := by
    have hmask : (x &&& 0x0f).toNat < 16 := by
      rw [UInt8.toNat_and]
      exact Nat.lt_of_le_of_lt Nat.and_le_right (by decide)
    exact ⟨⟨(x &&& 0x0f).toNat, hmask⟩, UInt8.ofNat_toNat.symm⟩
  have hall : ∀ low high : Fin 16,
      ((UInt8.ofNat high <<< 4) ||| UInt8.ofNat low) &&& 0x0f = UInt8.ofNat low ∧
        (((UInt8.ofNat high <<< 4) ||| UInt8.ofNat low) >>> 4) &&& 0x0f = UInt8.ofNat high := by
    decide
  obtain ⟨low, hlow⟩ := hsmall deviceId
  obtain ⟨high, hhigh⟩ := hsmall type
  rw [gipFlags, hlow, hhigh]
  exact hall low high

theorem and_mask_of_lt {x : UInt8} (hx : x.toNat < 16) : x &&& 0x0f = x := by
  apply UInt8.toNat_inj.mp
  rw [UInt8.toNat_and]
  have hmask : (0x0f : UInt8).toNat = 2 ^ 4 - 1 := rfl
  rw [hmask, Nat.and_two_pow_sub_one_eq_mod]
  exact Nat.mod_eq_of_lt hx

/-! ## All layers -/

/-- The bulk packet of a GIP command. -/
def gipTxPacket (peer : Peer) (ourMac : Mac) (gip : List UInt8) : List UInt8 :=
  mcuPacket cmdPacketTx (gipTxPayload peer ourMac gip)

section

variable (peer : Peer) (ourMac : Mac) {gip : List UInt8}

/-- The fields the packet is recognised by. -/
theorem gipTxPacket_fields (hgip : gip.length ≤ 68) :
    txType (gipTxPacket peer ourMac gip) = 1 ∧ txPort (gipTxPacket peer ourMac gip) = 2 ∧
      txCommand (gipTxPacket peer ourMac gip) = 0 ∧
      txLength (gipTxPacket peer ourMac gip) + 8 = (gipTxPacket peer ourMac gip).length := by
  have hlength := length_gipTxPayload_le ourMac peer hgip
  have hcmd : cmdPacketTx.toNat < 128 := by decide
  obtain ⟨htype, hport, hcommand, hfield⟩ :=
    mcuPacket_fields hcmd (Nat.lt_of_le_of_lt hlength (by decide))
  refine ⟨htype, hport, hcommand, ?_⟩
  rw [gipTxPacket, hfield, length_mcuPacket]

theorem gipTxPacket_count (hgip : gip.length ≤ 68) :
    mpduCount ((gipTxPacket peer ourMac gip).drop 4) = 26 + gip.length := by
  obtain ⟨rest, hrest⟩ := drop_mcuPacket cmdPacketTx (gipTxPayload peer ourMac gip)
  rw [gipTxPacket, hrest, gipTxPayload_count peer ourMac gip rest hgip]

/-- A command as the decoder shows it. -/
def gipTx (cmd flags seq : UInt8) (payload : List UInt8) : GipTx where
  index := (UInt32.ofInt (peer.wcid.toNat - 1)).toNat
  dst := peer.mac
  src := ourMac
  bssid := ourMac
  command := cmd
  deviceId := flags &&& 0x0f
  frameType := (flags >>> 4) &&& 0x0f
  sequence := seq
  payload := payload

section

variable (cmd flags seq : UInt8) {plen : UInt8} {payload : List UInt8}

theorem length_gipPacket_le (hlen : payload.length ≤ 64) :
    (gipPacket cmd flags seq plen payload).length ≤ 68 := by
  rw [length_gipPacket]
  omega

/-- The decoder recovers from a body what the encoders were given, whatever follows it. -/
theorem ofBody_gipTxPayload (hplen : plen.toNat = payload.length) (hlen : payload.length ≤ 64)
    (rest : List UInt8) :
    GipTx.ofBody (gipTxPayload peer ourMac (gipPacket cmd flags seq plen payload) ++ rest) =
      gipTx peer ourMac cmd flags seq payload := by
  obtain ⟨hdst, hsrc, hbssid⟩ :=
    gipTxPayload_addresses peer ourMac (gipPacket cmd flags seq plen payload) rest
  obtain ⟨hheader, hpayload⟩ := gipHeader_gipPacket cmd flags seq hplen
  simp only [GipTx.ofBody, gipTx, gipTxPayload_index, hdst, hsrc, hbssid,
    gipOf_gipTxPayload peer ourMac _ rest (length_gipPacket_le cmd flags seq hlen), hheader,
    hpayload, GipHeader.deviceId, GipHeader.frameType]

/-- The same for the packet. -/
theorem readGipTx?_gipTxPacket (hplen : plen.toNat = payload.length) (hlen : payload.length ≤ 64) :
    readGipTx? (gipTxPacket peer ourMac (gipPacket cmd flags seq plen payload)) =
      some (gipTx peer ourMac cmd flags seq payload) := by
  obtain ⟨rest, hrest⟩ := drop_mcuPacket cmdPacketTx
    (gipTxPayload peer ourMac (gipPacket cmd flags seq plen payload))
  rw [readGipTx?, if_pos (gipTxPacket_fields peer ourMac (length_gipPacket_le cmd flags seq hlen)),
    gipTxPacket, hrest, ofBody_gipTxPayload peer ourMac cmd flags seq hplen hlen]

end

end

section

variable (world : World) (air : Air) {peer : Peer} (cmd deviceId type seq : UInt8)
  {payload : List UInt8}

/-- What fits goes out in one packet. -/
theorem sendWlanGipFrame_packet (hactive : peer.active = true) (hlen : payload.length ≤ 64) :
    ∃ status, sendWlanGipFrame world peer cmd deviceId type seq payload
        (UInt8.ofNat payload.length) air =
      { air with usb := .bulkOut epCmd (gipTxPacket peer air.ourMac (gipPacket cmd
        (gipFlags type deviceId) seq (UInt8.ofNat payload.length) payload)) status :: air.usb } := by
  have hcount : (UInt8.ofNat payload.length).toNat = payload.length := by
    rw [UInt8.toNat_ofNat']
    omega
  have hfits : ¬68 < 4 + (UInt8.ofNat payload.length).toNat := by omega
  have hbuilt : gipBuild 68 cmd (gipFlags type deviceId) seq payload (UInt8.ofNat payload.length) =
      some (gipPacket cmd (gipFlags type deviceId) seq (UInt8.ofNat payload.length) payload) := by
    rw [gipBuild, if_neg hfits, hcount, List.take_length]
    rfl
  have hgip := length_gipPacket cmd (gipFlags type deviceId) seq (UInt8.ofNat payload.length)
    payload
  simp only [sendWlanGipFrame]
  rw [show ((type &&& 0x0f) <<< 4) ||| (deviceId &&& 0x0f) = gipFlags type deviceId from rfl,
    hbuilt]
  generalize gipPacket cmd (gipFlags type deviceId) seq (UInt8.ofNat payload.length) payload = gip
    at hgip
  have hlength := length_gipTxPayload_le air.ourMac peer (by omega : gip.length ≤ 68)
  have hgo : ¬(¬peer.active = true ∨ gip.length = 0) := by
    rw [hactive, hgip]
    simp
  have hroom : ¬(gipTxPayload peer air.ourMac gip).length > 156 := by omega
  simp only [wlanSendGip, if_neg hgo, if_neg hroom]
  exact ⟨_, rfl⟩

/-- What does not fit is dropped. -/
theorem sendWlanGipFrame_dropped {payloadLen : UInt8} (hlen : 64 < payloadLen.toNat) :
    sendWlanGipFrame world peer cmd deviceId type seq payload payloadLen air = air := by
  have hlong : 68 < 4 + payloadLen.toNat := by omega
  simp only [sendWlanGipFrame, gipBuild, if_pos hlong]

end

/-- A GIP command for a peer survives its framing: if its payload fits, exactly one packet is
sent, and its decoder finds the right length, command and port, index, addresses and MPDU count,
and reads the command as it was given; if the payload does not fit, nothing is sent. -/
theorem gip_command_survives (world : World) (air : Air) {peer : Peer}
    (hactive : peer.active = true) (hwcid : 1 ≤ peer.wcid.toNat ∧ peer.wcid.toNat ≤ 127)
    (cmd : UInt8) {deviceId type : UInt8} (hdevice : deviceId.toNat < 16) (htype : type.toNat < 16)
    (seq : UInt8) {payload : List UInt8} (hpayload : payload.length < 256) :
    (payload.length ≤ 64 → ∃ packet status,
      sendWlanGipFrame world peer cmd deviceId type seq payload (UInt8.ofNat payload.length) air =
        { air with usb := .bulkOut epCmd packet status :: air.usb } ∧
      txLength packet + 8 = packet.length ∧ txCommand packet = cmdPacketTx.toNat ∧
      txPort packet = mcuCpuTxPort.toNat ∧
      mpduCount (packet.drop 4) - 26 = 4 + payload.length ∧
      readGipTx? packet = some {
        index := peer.wcid.toNat - 1
        dst := peer.mac
        src := air.ourMac
        bssid := air.ourMac
        command := cmd
        deviceId := deviceId
        frameType := type
        sequence := seq
        payload := payload }) ∧
    (64 < payload.length →
      sendWlanGipFrame world peer cmd deviceId type seq payload (UInt8.ofNat payload.length) air =
        air) := by
  have hcount : (UInt8.ofNat payload.length).toNat = payload.length := by
    rw [UInt8.toNat_ofNat']
    exact Nat.mod_eq_of_lt hpayload
  constructor
  · intro hlen
    obtain ⟨status, hsent⟩ :=
      sendWlanGipFrame_packet world air cmd deviceId type seq hactive hlen
    have hgip : (gipPacket cmd (gipFlags type deviceId) seq (UInt8.ofNat payload.length)
        payload).length ≤ 68 := by
      rw [length_gipPacket]
      omega
    obtain ⟨-, hport, hcommand, hlength⟩ := gipTxPacket_fields peer air.ourMac hgip
    refine ⟨_, status, hsent, hlength, hcommand, hport, ?_, ?_⟩
    · rw [gipTxPacket_count peer air.ourMac hgip, length_gipPacket]
      omega
    · obtain ⟨hlow, hhigh⟩ := gipFlags_nibbles type deviceId
      -- the index is computed in `int`: it does not wrap because no peer has WCID 0
      have hindex : (UInt32.ofInt (peer.wcid.toNat - 1)).toNat = peer.wcid.toNat - 1 := by
        obtain ⟨hpos, hle⟩ := hwcid
        have hcast : (peer.wcid.toNat : Int) - 1 = ((peer.wcid.toNat - 1 : Nat) : Int) := by omega
        rw [hcast, UInt32.ofInt, Int.emod_eq_of_lt (by omega) (by omega), Int.toNat_natCast,
          UInt32.toNat_ofNat']
        omega
      rw [readGipTx?_gipTxPacket peer air.ourMac cmd _ seq hcount hlen, gipTx, hindex, hlow, hhigh,
        and_mask_of_lt hdevice, and_mask_of_lt htype]
  · intro hlong
    exact sendWlanGipFrame_dropped world air cmd deviceId type seq (by omega)

/-- A peer with entry 3. -/
def thirdPeer : Peer := { active := true, mac := padMac, wcid := 3 }

/-- The serial request to it. -/
theorem gip_command_survives_serial :
    (([4] : List UInt8).length ≤ 64 → ∃ packet status,
      sendWlanGipFrame (romWorld plainRom) thirdPeer gipCmdSerial 0 3 7 [4] 1 plainBoot.air =
        { plainBoot.air with usb := .bulkOut epCmd packet status :: plainBoot.air.usb } ∧
      txLength packet + 8 = packet.length ∧ txCommand packet = cmdPacketTx.toNat ∧
      txPort packet = mcuCpuTxPort.toNat ∧ mpduCount (packet.drop 4) - 26 = 5 ∧
      readGipTx? packet = some {
        index := 2
        dst := padMac
        src := plainBoot.air.ourMac
        bssid := plainBoot.air.ourMac
        command := gipCmdSerial
        deviceId := 0
        frameType := 3
        sequence := 7
        payload := [4] }) ∧
    (64 < ([4] : List UInt8).length →
      sendWlanGipFrame (romWorld plainRom) thirdPeer gipCmdSerial 0 3 7 [4] 1 plainBoot.air =
        plainBoot.air) :=
  gip_command_survives (romWorld plainRom) plainBoot.air rfl (by decide)
    gipCmdSerial (by decide) (by decide) 7 (by decide)

end XoneDarwin
