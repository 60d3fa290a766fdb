import XoneDarwin.Daemon.Handlers

/-!
# Two tables of stations

The peer table in the process and the WCID table in the adapter. The first is well
formed whatever is done to it; the second is written by `mt76_add_wcid` only, two words
for an entry, and reads as the first as long as register writes get through.
-/

namespace XoneDarwin

open Machine (Emits run)

/-! ## The table in the adapter -/

/-- The first word of an entry of the WCID table. -/
def wcidAddr (i : Fin maxPeers) : UInt16 :=
  mtWcidAddrBase + (UInt8.ofNat i).toUInt16 * 8

/-- The address an entry of the WCID table holds: six bytes in two little-endian words. -/
def wcidEntry (log : UsbLog) (i : Fin maxPeers) : Option Mac :=
  (register log (wcidAddr i)).bind fun dw0 =>
    (register log (wcidAddr i + 4)).map fun dw1 => Mac.load (store32 dw0 ++ store32 dw1)

/-- Every register write so far has succeeded. -/
def Reliable (log : UsbLog) : Prop :=
  ∀ addr val req, .ctrlWrite addr val req false ∉ log

/-- An entry that leaves the WCID table alone: the other registers the daemon writes while it runs
lie below the table. -/
def UsbIo.OffTable : UsbIo → Prop
  | .ctrlWrite addr _ _ _ => addr < mtWcidAddrBase
  | _ => True

theorem wcidAddr_toNat (i : Fin maxPeers) : (wcidAddr i).toNat = 0x1800 + 8 * i.val := by
  have hi : i.val < 128 := i.isLt
  have hbyte : (UInt8.ofNat i).toUInt16.toNat = i.val := by
    rw [UInt8.toNat_toUInt16, UInt8.toNat_ofNat_of_lt' (Nat.lt_trans hi (by decide))]
  have hbase : mtWcidAddrBase.toNat = 0x1800 := rfl
  have height : (8 : UInt16).toNat = 8 := rfl
  rw [wcidAddr, UInt16.toNat_add, UInt16.toNat_mul, hbyte, hbase, height]
  omega

theorem wcidAddr_four_toNat (i : Fin maxPeers) :
    (wcidAddr i + 4).toNat = 0x1804 + 8 * i.val := by
  have hi : i.val < 128 := i.isLt
  have hfour : (4 : UInt16).toNat = 4 := rfl
  rw [UInt16.toNat_add, wcidAddr_toNat, hfour]
  omega

/-- Different words of the table have different addresses. -/
theorem wcidAddr_ne {i j : Fin maxPeers} (hne : i ≠ j) :
    wcidAddr i ≠ wcidAddr j ∧ wcidAddr i + 4 ≠ wcidAddr j + 4 := by
  have hval : i.val ≠ j.val := fun heq => hne (Fin.ext heq)
  constructor
  · intro heq
    have hnat := congrArg UInt16.toNat heq
    rw [wcidAddr_toNat, wcidAddr_toNat] at hnat
    omega
  · intro heq
    have hnat := congrArg UInt16.toNat heq
    rw [wcidAddr_four_toNat, wcidAddr_four_toNat] at hnat
    omega

theorem wcidAddr_ne_four (i j : Fin maxPeers) : wcidAddr i ≠ wcidAddr j + 4 := by
  intro heq
  have hnat := congrArg UInt16.toNat heq
  rw [wcidAddr_toNat, wcidAddr_four_toNat] at hnat
  omega

theorem UsbIo.OffTable.written? {io : UsbIo} (hio : io.OffTable) {addr : UInt16}
    (haddr : mtWcidAddrBase ≤ addr) : io.written? addr = none := by
  cases io with
  | ctrlWrite addr' val req ok =>
      refine if_neg fun hsame => ?_
      have hoff : addr' < mtWcidAddrBase := hio
      rw [hsame.1] at hoff
      exact absurd haddr (UInt16.not_le.mpr hoff)
  | ctrlRead => rfl
  | bulkOut => rfl

/-- Traffic off the table leaves its entries as they were. -/
theorem wcidEntry_eq {before after : UsbLog} (hemits : Emits UsbIo.OffTable before after)
    (i : Fin maxPeers) : wcidEntry after i = wcidEntry before i := by
  have hregister {addr : UInt16} (haddr : mtWcidAddrBase ≤ addr) :
      register after addr = register before addr :=
    (hemits.mono fun _ hio => hio.written? haddr).findSome?_eq
  rw [wcidEntry, wcidEntry, hregister, hregister]
  · rw [UInt16.le_iff_toNat_le, wcidAddr_four_toNat]
    exact Nat.le_trans (by decide) (Nat.le_add_right _ _)
  · rw [UInt16.le_iff_toNat_le, wcidAddr_toNat]
    exact Nat.le_add_right _ _

theorem Reliable.of_suffix {before after : UsbLog} (hafter : Reliable after)
    (hsuffix : before <:+ after) : Reliable before :=
  fun addr val req hmem => hafter addr val req (hsuffix.mem hmem)

/-! ## One entry written -/

/-- The two words of an address hold it. -/
theorem load_words (mac : Mac) :
    Mac.load (store32 (load32 mac.bytes) ++
      store32 (load16 (mac.bytes.drop 4)).toUInt32) = mac := by
  have hbyte (b : UInt8) : b.toNat < 256 := b.toNat_lt
  have hload (n : Nat) (b : UInt8) (hn : n % 256 = b.toNat) : UInt8.ofNat n = b := by
    apply UInt8.toNat_inj.mp
    rw [UInt8.toNat_ofNat']
    exact hn
  obtain ⟨b0, b1, b2, b3, b4, b5⟩ := mac
  have h0 := hbyte b0
  have h1 := hbyte b1
  have h2 := hbyte b2
  have h3 := hbyte b3
  have h4 := hbyte b4
  have h5 := hbyte b5
  simp only [Mac.load, Mac.bytes, store32, load32, load16, byteAt, List.drop, List.cons_append,
    List.getD_cons_zero, List.getD_cons_succ, UInt32.toNat_ofNat', UInt16.toNat_toUInt32,
    UInt16.toNat_ofNat', Mac.mk.injEq]
  refine ⟨hload _ _ ?_, hload _ _ ?_, hload _ _ ?_, hload _ _ ?_, hload _ _ ?_, hload _ _ ?_⟩
  all_goals omega

section

variable (dongle : Dongle) (i : Fin maxPeers) (mac : Mac) (log : UsbLog)

/-- `mt76_add_wcid` writes its entry, if the two writes succeed, and no other. -/
theorem wcidEntry_addWcid
    (hreliable : Reliable (mt76AddWcid dongle (UInt8.ofNat i) mac log)) :
    (∀ j, j ≠ i → wcidEntry (mt76AddWcid dongle (UInt8.ofNat i) mac log) j = wcidEntry log j) ∧
      wcidEntry (mt76AddWcid dongle (UInt8.ofNat i) mac log) i = some mac := by
  obtain ⟨ok0, ok1, hlog⟩ : ∃ ok0 ok1, mt76AddWcid dongle (UInt8.ofNat i) mac log =
      .ctrlWrite (wcidAddr i + 4) (load16 (mac.bytes.drop 4)).toUInt32 mtVendMultiWrite ok1 ::
        .ctrlWrite (wcidAddr i) (load32 mac.bytes) mtVendMultiWrite ok0 :: log :=
    ⟨_, _, rfl⟩
  rw [hlog] at hreliable ⊢
  have hok1 : ok1 = true := by
    cases ok1 with
    | true => rfl
    | false => exact absurd List.mem_cons_self (hreliable _ _ _)
  have hok0 : ok0 = true := by
    cases ok0 with
    | true => rfl
    | false => exact absurd (List.mem_cons_of_mem _ List.mem_cons_self) (hreliable _ _ _)
  subst hok0 hok1
  constructor
  · intro j hj
    have hne := wcidAddr_ne hj.symm
    simp only [wcidEntry, register_cons, UsbIo.written?, hne.1, hne.2, wcidAddr_ne_four i j,
      (wcidAddr_ne_four j i).symm, false_and, if_false, Option.none_or]
  · simp only [wcidEntry, register_cons, UsbIo.written?, wcidAddr_ne_four i i,
      (wcidAddr_ne_four i i).symm, false_and, if_false, Option.none_or, and_self, if_true,
      Option.some_or, Option.bind_some, Option.map_some, load_words]

end

/-! ## The rest of the traffic -/

section

variable (dongle : Dongle)

theorem mt76CtrlRead_off (addr : UInt16) (req : UInt8) (log : UsbLog) :
    Emits UsbIo.OffTable log (mt76CtrlRead dongle addr req log).2 :=
  Emits.one trivial

theorem mt76W_off {addr : UInt16} (haddr : addr < mtWcidAddrBase) (val : UInt32) (log : UsbLog) :
    Emits UsbIo.OffTable log (mt76W dongle addr val log) :=
  Emits.one haddr

theorem mt76McuCmd_off (cmd : UInt8) (data : List UInt8) (log : UsbLog) :
    Emits UsbIo.OffTable log (mt76McuCmd dongle cmd data log).2 :=
  Emits.one trivial

theorem mt76WlanTx_off (frame : List UInt8) (wcid : UInt8) (log : UsbLog) :
    Emits UsbIo.OffTable log (mt76WlanTx dongle frame wcid log).2 := by
  unfold mt76WlanTx
  split
  · exact Emits.refl log
  · exact Emits.one trivial

theorem mt76FwClientAdd_off (wcid : UInt8) (log : UsbLog) :
    Emits UsbIo.OffTable log (mt76FwClientAdd dongle wcid log).2 := by
  unfold mt76FwClientAdd
  split
  · exact Emits.refl log
  · exact mt76McuCmd_off dongle _ _ log

theorem mt76WriteBeacon_off (mac : Mac) (pairing : Int) (channel : UInt8) (log : UsbLog) :
    Emits UsbIo.OffTable log (mt76WriteBeacon dongle mac pairing channel log).2 := by
  have hsent := mt76McuCmd_off dongle mcuCmdBurstWrite (beaconPayload mac channel) log
  unfold mt76WriteBeacon
  dsimp only
  split
  · exact hsent
  · have hread := hsent.trans (mt76CtrlRead_off dongle mtBeaconTimeCfg mtVendMultiRead _)
    have hwritten (val : UInt32) := hread.trans
      (mt76W_off dongle (by decide : mtBeaconTimeCfg < mtWcidAddrBase) val _)
    exact ((hwritten _).trans (mt76CtrlRead_off dongle mtBeaconTimeCfg mtVendMultiRead _)).trans
      (mt76McuCmd_off dongle _ _ _)

theorem mt76EfuseRead_off (addr len : UInt8) (log : UsbLog) :
    Emits UsbIo.OffTable log (mt76EfuseRead dongle addr len log).2.2 :=
  mt76EfuseRead_entries dongle (fun _ _ _ => trivial)
    (fun _ _ => (by decide : mtEfuseCtrl < mtWcidAddrBase)) addr len log

theorem mt76PairingChannelScan_off (now : UInt64) (state : ScanState) (log : UsbLog) :
    Emits UsbIo.OffTable log (mt76PairingChannelScan dongle now state log).2.2 := by
  have hmac : Emits UsbIo.OffTable log (scanMac dongle state.mac log).2 := by
    unfold scanMac
    split
    · dsimp only
      split
      · exact mt76EfuseRead_off dongle _ _ log
      · exact mt76EfuseRead_off dongle _ _ log
    · exact Emits.refl log
  simp only [mt76PairingChannelScan]
  split
  · have htuned := hmac.trans (mt76McuCmd_off dongle mcuCmdSwitchChannel
      (channelConfig (scanChannel (state.chIdx + 1)) mcuChBw20 1 0x18) _)
    dsimp only
    split
    · exact htuned.trans (mt76WriteBeacon_off dongle _ _ _ _)
    · exact htuned
  · exact hmac

end

section

variable (world : World) (air : Air)

theorem setPairingBeacon_off (enabled : Bool) :
    Emits UsbIo.OffTable air.usb (setPairingBeacon world enabled air).usb := by
  unfold setPairingBeacon
  split
  · exact Emits.refl _
  · exact mt76WriteBeacon_off world.dongle _ _ _ _

theorem logAwdlIgnored_off (now : UInt64) :
    Emits UsbIo.OffTable air.usb (logAwdlIgnored now air).usb := by
  unfold logAwdlIgnored
  split
  · exact Emits.refl _
  · exact Emits.refl _

theorem wlanSendGip_off (peer : Peer) (gip : List UInt8) :
    Emits UsbIo.OffTable air.usb (wlanSendGip world peer gip air).usb := by
  unfold wlanSendGip
  split
  · exact Emits.refl _
  · dsimp only
    split
    · exact Emits.refl _
    · exact mt76McuCmd_off world.dongle _ _ _

theorem pairingCheck_off (active : Nat) (now scanNow : UInt64) :
    Emits UsbIo.OffTable air.usb (pairingCheck world active now scanNow air).usb := by
  have hbeacon := setPairingBeacon_off world air true
  by_cases hactive : active = 0
  · rw [hactive, pairingCheck_idle]
    split
    · exact hbeacon
    · split
      · exact hbeacon.trans (mt76PairingChannelScan_off world.dongle _ _ _)
      · exact hbeacon
  · simp only [pairingCheck, if_neg hactive]
    split
    · exact setPairingBeacon_off world air _
    · exact Emits.refl _

end

/-! ## What the handlers keep -/

/-- One call on the radio side leaves the WCID table alone. -/
theorem Air.Call.off {world : World} {air after : Air} (hcall : air.Call world after) :
    Emits UsbIo.OffTable air.usb after.usb := by
  cases hcall with
  | transmit frame wcid => exact mt76WlanTx_off world.dongle frame wcid air.usb
  | gip peer gip => exact wlanSendGip_off world air peer gip
  | sequence => exact Emits.refl _
  | beacon enabled => exact setPairingBeacon_off world air enabled
  | lock now =>
      unfold lockPairingChannel
      exact Emits.refl _
  | awdl now => exact logAwdlIgnored_off air now
  | client wcid => exact mt76FwClientAdd_off world.dongle wcid air.usb

/-- What a handler does to the daemon, piece by piece, keeps `I`: it registers stations, sends
things, changes slots, and sets flags and the slot of a peer. -/
structure Kept (world : World) (I : Daemon → Prop) : Prop where
  remember : ∀ mac daemon, I daemon → I (rememberPeer world mac daemon).2
  air : ∀ {daemon : Daemon} {air : Air}, Emits UsbIo.OffTable daemon.air.usb air.usb → I daemon →
    I { daemon with air := air }
  pads : ∀ {daemon : Daemon} (pads : Pads), I daemon → I { daemon with pads := pads }
  peer : ∀ {daemon : Daemon} (i : Fin maxPeers) (peer : Peer),
    peer.active = (daemon.table.peers i).active → peer.mac = (daemon.table.peers i).mac →
    I daemon → I { daemon with table := daemon.table.setPeer i peer }

namespace Kept

variable {world : World} {I : Daemon → Prop} (hkept : Kept world I)

include hkept

theorem pieces : Pieces world I where
  remember := hkept.remember
  air := fun hcall => hkept.air hcall.off
  pads := hkept.pads
  peer := hkept.peer

/-- A step of the daemon keeps what its parts keep. -/
theorem step {daemon : Daemon} (step : Step) (hdaemon : I daemon) :
    I (daemon.step world step) := by
  cases step with
  | housekeeping now scanNow =>
      exact hkept.air (pairingCheck_off world daemon.air _ now scanNow) hdaemon
  | transfer now t => exact hkept.pieces.handleTransfer now t hdaemon

end Kept

/-! ## The peer table -/

/-- What the slots of the handlers rest on. -/
structure PeerTable.Sound (table : PeerTable) : Prop where
  zero : (table.peers 0).active = false
  wcid : ∀ i, (table.peers i).active = true → (table.peers i).wcid.toNat = i.val ∧ 0 < i.val
  slot : ∀ i, (table.peers i).active = true →
    (table.peers i).slot = noSlot ∨ (table.peers i).slot.toNat = i.val - 1 ∧ i.val - 1 < maxSlots
  contiguous : ∀ i j : Fin maxPeers, (table.peers i).active = true → 0 < j.val → j ≤ i →
    (table.peers j).active = true
  unique : ∀ i j, (table.peers i).active = true → (table.peers j).active = true → i ≠ j →
    (table.peers i).mac ≠ (table.peers j).mac
  /-- two active peers never share a controller slot -/
  apart : ∀ i j, (table.peers i).active = true → (table.peers j).active = true → i ≠ j →
    (table.peers i).slot ≠ noSlot → (table.peers i).slot ≠ (table.peers j).slot
  next : 1 ≤ table.nextWcid.toNat ∧ table.nextWcid.toNat ≤ 127

namespace PeerTable

variable {table : PeerTable}

theorem WF.contiguous (hwf : table.WF) {i j : Fin maxPeers}
    (hactive : (table.peers i).active = true) (hpos : 0 < j.val) (hle : j ≤ i) :
    (table.peers j).active = true := by
  have hle' : j.val ≤ i.val := hle
  have hlast : i.val < 128 := i.isLt
  by_cases hused : j.val < table.nextWcid.toNat
  · exact hwf.used j hpos hused
  · have hbound := hwf.next_le
    by_cases hroom : table.nextWcid.toNat < 127
    · rw [hwf.fresh hroom i (by omega)] at hactive
      cases hactive
    · have heq : j = i := Fin.ext (by omega)
      rw [heq]
      exact hactive

theorem WF.slot_toNat (hwf : table.WF) {i : Fin maxPeers} (hactive : (table.peers i).active = true)
    (hslot : (table.peers i).slot ≠ noSlot) :
    (table.peers i).slot.toNat = i.val - 1 ∧ i.val - 1 < maxSlots := by
  obtain ⟨hsmall, heq⟩ := (hwf.slot i hactive).resolve_left hslot
  have hsub := ofNat_entry_sub_one (hwf.index_pos hactive)
  have hval : (table.peers i).slot.toNat = i.val - 1 := heq ▸ hsub
  refine ⟨hval, ?_⟩
  rw [← hval]
  exact UInt8.lt_iff_toNat_lt.mp hsmall

theorem WF.sound (hwf : table.WF) : table.Sound where
  zero := hwf.zero
  wcid := by
    intro i hactive
    rw [hwf.wcid i hactive, UInt8.toNat_ofNat_of_lt' (Nat.lt_trans i.isLt (by decide))]
    exact ⟨rfl, entry_pos (hwf.index_pos hactive)⟩
  slot := by
    intro i hactive
    by_cases hslot : (table.peers i).slot = noSlot
    · exact Or.inl hslot
    · exact Or.inr (hwf.slot_toNat hactive hslot)
  contiguous := fun _ _ => hwf.contiguous
  unique := fun i j hi hj hne hmac => hne (hwf.unique i j hi hj hmac)
  apart := by
    intro i j hi hj hne hslot hsame
    have hval := (hwf.slot_toNat hi hslot).1
    have hval' := (hwf.slot_toNat hj (hsame ▸ hslot)).1
    have hipos := entry_pos (hwf.index_pos hi)
    have hjpos := entry_pos (hwf.index_pos hj)
    rw [hsame] at hval
    exact hne (Fin.ext (by omega))
  next := ⟨hwf.next_pos, hwf.next_le⟩

/-- Setting flags of an entry that is not in use does no harm either. -/
theorem WF.setPeer_inactive (hwf : table.WF) {i : Fin maxPeers} {peer : Peer}
    (hinactive : (table.peers i).active = false) (hpeer : peer.active = false) :
    (table.setPeer i peer).WF := by
  have hactive (j : Fin maxPeers) :
      ((table.setPeer i peer).peers j).active = (table.peers j).active :=
    setPeer_keeps Peer.active (hpeer.trans hinactive.symm) j
  have hsame (j : Fin maxPeers) (hj : (table.peers j).active = true) :
      (table.setPeer i peer).peers j = table.peers j := by
    refine setPeer_other ?_ peer
    rintro rfl
    rw [hinactive] at hj
    cases hj
  refine ⟨?_, ?_, ?_, ?_, hwf.next_pos, hwf.next_le, ?_, ?_⟩
  · rw [hactive]
    exact hwf.zero
  · intro j hj
    rw [hactive] at hj
    rw [hsame j hj]
    exact hwf.wcid j hj
  · intro j hj
    rw [hactive] at hj
    rw [hsame j hj]
    exact hwf.slot j hj
  · intro j k hj hk
    rw [hactive] at hj hk
    rw [hsame j hj, hsame k hk]
    exact hwf.unique j k hj hk
  · intro j
    rw [hactive]
    exact hwf.used j
  · intro hroom j
    rw [hactive]
    exact hwf.fresh hroom j

/-- `peer_slot` keeps the table well formed, whichever entry it is called on. -/
theorem WF.peerSlot (hwf : table.WF) (i : Fin maxPeers) : (table.peerSlot i).2.WF := by
  cases hactive : (table.peers i).active with
  | true =>
      cases hpad : padOf? i with
      | none =>
          rw [hwf.peerSlot_none hactive hpad]
          exact hwf
      | some s =>
          rw [hwf.peerSlot_some hactive hpad]
          exact hwf.setPeer rfl rfl rfl (Or.inr (padOf?_slot hpad))
  | false =>
      unfold PeerTable.peerSlot
      dsimp only
      split
      · exact hwf
      · split
        · exact hwf
        · exact hwf.setPeer_inactive hactive hactive

end PeerTable

/-! ## The adapter's table -/

/-- As long as every register write succeeds, the adapter knows the active peers. -/
def Synced (daemon : Daemon) : Prop :=
  Reliable daemon.air.usb → ∀ i, (daemon.table.peers i).active = true →
    wcidEntry daemon.air.usb i = some (daemon.table.peers i).mac

theorem rememberPeer_synced (world : World) (mac : Mac) {daemon : Daemon}
    (hsynced : Synced daemon) : Synced (rememberPeer world mac daemon).2 := by
  unfold rememberPeer PeerTable.remember
  cases daemon.table.findPeerByMac mac with
  | some i => exact hsynced
  | none =>
      by_cases hroom : daemon.table.nextWcid.toNat < maxPeers
      · simp only [dif_pos hroom]
        intro hreliable i
        have hbefore := hreliable.of_suffix ⟨[_, _], rfl⟩
        have hentry := wcidEntry_addWcid world.dongle ⟨daemon.table.nextWcid.toNat, hroom⟩ mac
          daemon.air.usb hreliable
        by_cases hi : i = ⟨daemon.table.nextWcid.toNat, hroom⟩
        · subst hi
          intro _
          rw [hentry.2, PeerTable.setPeer_same]
          rfl
        · rw [hentry.1 i hi, PeerTable.setPeer_other hi]
          exact hsynced hbefore i
      · simp only [dif_neg hroom]
        exact hsynced

theorem synced_kept (world : World) : Kept world Synced where
  remember := fun mac _ => rememberPeer_synced world mac
  air := by
    intro daemon air hemits hsynced hreliable i hactive
    rw [wcidEntry_eq hemits]
    exact hsynced (hreliable.of_suffix hemits.suffix) i hactive
  pads := fun _ hsynced => hsynced
  peer := by
    intro daemon i peer hactive hmac hsynced hreliable j
    have hsame := PeerTable.setPeer_station hactive hmac j
    rw [hsame.1, hsame.2]
    exact hsynced hreliable j

/-! ## Runs -/

/-- What is done to the peer table: single calls, and whole steps of the daemon. -/
inductive PeerOp
  /-- `remember_peer` -/
  | remember (mac : Mac)
  /-- `peer_slot` -/
  | slot (i : Fin maxPeers)
  | step (step : Step)

def Daemon.peerOp (world : World) (daemon : Daemon) : PeerOp → Daemon
  | .remember mac => (rememberPeer world mac daemon).2
  | .slot i => { daemon with table := (daemon.table.peerSlot i).2 }
  | .step step => daemon.step world step

theorem peerOp_wf (world : World) {daemon : Daemon} (hwf : daemon.table.WF) (op : PeerOp) :
    (daemon.peerOp world op).table.WF := by
  cases op with
  | remember mac => exact hwf.remember mac
  | slot i => exact hwf.peerSlot i
  | step step => exact step_wf world hwf step

theorem peerOp_synced (world : World) {daemon : Daemon} (hsynced : Synced daemon) (op : PeerOp) :
    Synced (daemon.peerOp world op) := by
  cases op with
  | remember mac => exact rememberPeer_synced world mac hsynced
  | slot i => exact (synced_kept world).pieces.peerSlot i hsynced
  | step step => exact (synced_kept world).step step hsynced

/-- After any calls and steps the peer table is sound, and with all register writes successful the
adapter's table holds the address of every active peer. -/
theorem peer_table_sound {world : World} {boot : Daemon} (hboot : Boots world boot)
    (ops : List PeerOp) :
    (run (Daemon.peerOp world) boot ops).table.Sound ∧
      (Reliable (run (Daemon.peerOp world) boot ops).air.usb →
        ∀ i, ((run (Daemon.peerOp world) boot ops).table.peers i).active = true →
          wcidEntry (run (Daemon.peerOp world) boot ops).air.usb i =
            some ((run (Daemon.peerOp world) boot ops).table.peers i).mac) := by
  have hwf := Machine.run_invariant (fun daemon : Daemon => daemon.table.WF)
    (fun _ op hwf => peerOp_wf world hwf op) (boots_wf world hboot) ops
  have hstart : Synced boot := by
    intro _ i hactive
    rw [(boots_start world hboot).1] at hactive
    cases hactive
  have hsynced := Machine.run_invariant Synced
    (fun _ op hsynced => peerOp_synced world hsynced op) hstart ops
  exact ⟨hwf.sound, hsynced⟩

/-- A station registered right after start-up: entry 1 of both tables. -/
theorem peer_table_sound_remember :
    let world := { romWorld plainRom with pid := .v1 }
    let daemon := run (Daemon.peerOp world) (mainStart world) [.remember plainMac]
    daemon.table.Sound ∧ wcidEntry daemon.air.usb 1 = some plainMac := by
  intro world daemon
  have hsound := peer_table_sound (⟨0, rfl⟩ : Boots world (mainStart world)) [.remember plainMac]
  refine ⟨hsound.1, hsound.2 ?_ 1 (by decide)⟩
  intro addr val req hmem
  rcases List.mem_cons.mp hmem with heq | hmem
  · cases heq
  · rcases List.mem_cons.mp hmem with heq | hmem
    · cases heq
    · cases hmem

end XoneDarwin
