import XoneDarwin.Daemon.Framing

/-!
# Outgoing 802.11 frames

`mt76_wlan_tx` puts a frame behind a TxInfo word and a TxWi and fills it up to whole
words. `readWlanTx?` takes a packet apart by the length fields it carries.
-/

namespace XoneDarwin

/-- `pkt` of `mt76_wlan_tx`. -/
abbrev wlanPacketCap : Nat := 4 + 20 + 2048 + 3 + 4

/-- A group address. -/
def Mac.Multicast (mac : Mac) : Prop :=
  mac.b0 &&& 0x01 ≠ 0

instance (mac : Mac) : Decidable mac.Multicast :=
  inferInstanceAs (Decidable (_ ≠ _))

/-! ## The decoder -/

/-- The flag of a TxInfo word that tells 802.11 frames. -/
def txIs80211 (packet : List UInt8) : Nat := (load32 packet).toNat / 0x80000 % 2

/-- The MPDU byte count in the TxWi of a WLAN packet. -/
def txwiCount (packet : List UInt8) : Nat :=
  (byteAt packet 10).toNat + 0x100 * ((byteAt packet 11).toNat % 64)

/-- The ack bit of the TxWi. -/
def txwiAck (packet : List UInt8) : Bool :=
  byteAt packet 8 &&& 0x01 ≠ 0

/-- The WCID of the TxWi. -/
def txwiWcid (packet : List UInt8) : UInt8 :=
  byteAt packet 9

/-- The bytes behind the 20-byte TxWi. -/
def txFrame (packet : List UInt8) : List UInt8 :=
  (packet.drop 24).take (txwiCount packet)

/-- A frame on its way to a station. -/
structure WlanTx where
  wcid : UInt8
  ack : Bool
  frame : List UInt8
  deriving DecidableEq

/-- The frame in a packet for the WLAN port whose length field is right. -/
def readWlanTx? (packet : List UInt8) : Option WlanTx :=
  if txType packet = 0 ∧ txPort packet = 0 ∧ txIs80211 packet = 1 ∧
      txLength packet + 8 = packet.length then
    some ⟨txwiWcid packet, txwiAck packet, txFrame packet⟩
  else none

/-! ## Packets -/

section

variable {frame : List UInt8} (wcid : UInt8)

theorem length_wlanTxwi : (wlanTxwi frame wcid).length = 20 := by
  simp [wlanTxwi]

theorem length_wlanPacket :
    (wlanPacket frame wcid).length = 20 + frame.length + pad4 (20 + frame.length) + 8 := by
  simp only [wlanPacket, List.length_append, length_store32, List.length_replicate,
    length_wlanTxwi]
  omega

/-- The packet behind its TxInfo word. -/
theorem drop_wlanPacket : (wlanPacket frame wcid).drop 24 =
    frame ++ List.replicate (pad4 (20 + frame.length)) 0 ++ List.replicate 4 0 := by
  rw [wlanPacket, ← List.append_assoc]
  exact List.drop_left' (by rw [List.length_append, length_store32, length_wlanTxwi])

/-- The TxInfo word of a frame. -/
theorem wlanPacket_fields (hframe : frame.length ≤ 2048) :
    txType (wlanPacket frame wcid) = 0 ∧ txPort (wlanPacket frame wcid) = 0 ∧
      txIs80211 (wlanPacket frame wcid) = 1 ∧
      txLength (wlanPacket frame wcid) = 20 + frame.length + pad4 (20 + frame.length) := by
  have hpad := pad4_lt (20 + frame.length)
  have hinfo := wlanTxinfo_frame hframe
  simp only [txType, txPort, txIs80211, txLength, wlanPacket, load32_store32, hinfo]
  omega

/-- The TxWi counts the bytes of the frame. -/
theorem wlanPacket_count (hframe : frame.length ≤ 2048) :
    txwiCount (wlanPacket frame wcid) = frame.length := by
  have hlow : byteAt (wlanPacket frame wcid) 10 = UInt8.ofNat frame.length := rfl
  have hhigh : byteAt (wlanPacket frame wcid) 11 =
      UInt8.ofNat (frame.length / 0x100) &&& 0x3f := rfl
  have hmask : (0x3f : UInt8).toNat = 2 ^ 6 - 1 := rfl
  rw [txwiCount, hlow, hhigh, UInt8.toNat_and, UInt8.toNat_ofNat', UInt8.toNat_ofNat', hmask,
    Nat.and_two_pow_sub_one_eq_mod]
  omega

theorem wlanPacket_frame (hframe : frame.length ≤ 2048) :
    txFrame (wlanPacket frame wcid) = frame := by
  rw [txFrame, wlanPacket_count wcid hframe, drop_wlanPacket, List.append_assoc,
    List.take_left' rfl]

/-- A frame with a receiver address asks for an acknowledgement unless it goes to a group. -/
theorem wlanPacket_ack (haddress : 10 ≤ frame.length) :
    txwiAck (wlanPacket frame wcid) = true ↔ ¬(Mac.load (frame.drop 4)).Multicast := by
  have hbyte : byteAt (wlanPacket frame wcid) 8 =
      if frame.length ≥ 10 ∧ byteAt frame 4 &&& 0x01 ≠ 0 then 0x00 else 0x01 := rfl
  have hreceiver : (Mac.load (frame.drop 4)).b0 = byteAt frame 4 := byteAt_drop frame 4 0
  rw [txwiAck, hbyte, Mac.Multicast, hreceiver]
  by_cases hgroup : byteAt frame 4 &&& 0x01 ≠ 0
  · rw [if_pos ⟨haddress, hgroup⟩]
    exact iff_of_false (by decide) (not_not_intro hgroup)
  · rw [if_neg fun hboth => hgroup hboth.2]
    exact iff_of_true (by decide) hgroup

end

/-- An 802.11 frame survives the transmit encoder: up to 2048 bytes go out in one packet that fits
its buffer and from which length, bytes, WCID and the need for an acknowledgement are read back,
so no other frame or WCID has the same packet; longer frames are not sent. -/
theorem wlan_frame_survives (dongle : Dongle) (frame : List UInt8) (wcid : UInt8) (log : UsbLog) :
    (frame.length ≤ 2048 → ∃ packet status,
      (mt76WlanTx dongle frame wcid log).2 = .bulkOut epCmd packet status :: log ∧
      packet.length ≤ wlanPacketCap ∧
      packet.length = txLength packet + 8 ∧ txLength packet % 4 = 0 ∧
      txwiCount packet = frame.length ∧ txFrame packet = frame ∧ txwiWcid packet = wcid ∧
      (10 ≤ frame.length → (txwiAck packet = true ↔ ¬(Mac.load (frame.drop 4)).Multicast)) ∧
      readWlanTx? packet = some ⟨wcid, txwiAck packet, frame⟩ ∧
      ∀ (other : List UInt8) (wcid' : UInt8), other.length ≤ 2048 →
        wlanPacket other wcid' = packet → other = frame ∧ wcid' = wcid) ∧
    (2048 < frame.length → mt76WlanTx dongle frame wcid log = (-1, log)) := by
  constructor
  · intro hframe
    obtain ⟨htype, hport, hflag, hlength⟩ := wlanPacket_fields wcid hframe
    have hcount := wlanPacket_count wcid hframe
    have hbytes := wlanPacket_frame wcid hframe
    have hsize : (wlanPacket frame wcid).length = _ := length_wlanPacket wcid
    have hpad := pad4_lt (20 + frame.length)
    have hwords : (20 + frame.length + pad4 (20 + frame.length)) % 4 = 0 := by
      rw [pad4]
      omega
    refine ⟨wlanPacket frame wcid, _, congrArg Prod.snd (if_neg (not_lt.mpr hframe)), ?_, ?_, ?_,
      hcount, hbytes, rfl, wlanPacket_ack wcid, ?_, ?_⟩
    · rw [hsize, wlanPacketCap]
      omega
    · rw [hsize, hlength]
    · rw [hlength]
      exact hwords
    · rw [readWlanTx?, if_pos ⟨htype, hport, hflag, by rw [hlength, hsize]⟩, hbytes]
      rfl
    · intro other wcid' hother heq
      have hframes := congrArg txFrame heq
      rw [wlanPacket_frame wcid' hother, hbytes] at hframes
      exact ⟨hframes, congrArg txwiWcid heq⟩
  · intro hlong
    exact if_pos hlong

end XoneDarwin
