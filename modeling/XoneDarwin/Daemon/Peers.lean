import Mathlib.Tactic.IntervalCases
import XoneDarwin.Daemon.State
import XoneDarwin.Machine.Registry

/-!
# The peer table

Look-up, allocation and slot mapping of `g_peers`, and what holds of the table
whatever is done to it: entry 0 stays empty, entry `i` has WCID `i`, active
entries form a prefix and no two of them share an address.
-/

namespace XoneDarwin

/-- `UINT8_MAX`, the slot of a peer that has none. -/
abbrev noSlot : UInt8 := 0xff

namespace PeerTable

/-- `find_peer_by_mac`: the first active entry from 1 on. -/
def findPeerByMac (mac : Mac) (table : PeerTable) : Option (Fin maxPeers) :=
  ((List.finRange maxPeers).drop 1).find? fun i =>
    (table.peers i).active && (table.peers i).mac = mac

def setPeer (i : Fin maxPeers) (peer : Peer) (table : PeerTable) : PeerTable :=
  { table with peers := Function.update table.peers i peer }

/-- The entry `remember_peer` fills in. -/
def newPeer (wcid : UInt8) (mac : Mac) : Peer where
  active := true
  mac := mac
  wcid := wcid
  handshakeDone := false
  slot := noSlot
  fwClientAdded := false
  sessionInitialized := false
  initialCommandsSent := false

/-- What `remember_peer` does to the table, and the entry it returns. -/
def remember (mac : Mac) (table : PeerTable) : Option (Fin maxPeers) × PeerTable :=
  match table.findPeerByMac mac with
  | some i => (some i, table)
  | none =>
      if h : table.nextWcid.toNat < maxPeers then
        let i : Fin maxPeers := ⟨table.nextWcid.toNat, h⟩
        (some i,
          { table.setPeer i (newPeer table.nextWcid mac) with
            -- the counter stops at the last entry
            nextWcid := if table.nextWcid < 127 then table.nextWcid + 1 else table.nextWcid })
      else (none, table)

/-- `peer_slot`: the slot, and the table with the slot written back. -/
def peerSlot (i : Fin maxPeers) (table : PeerTable) : UInt8 × PeerTable :=
  let peer := table.peers i
  if peer.slot < 8 then (peer.slot, table)
  else
    let slot := peer.wcid - 1
    if slot ≥ 8 then (noSlot, table) else (slot, table.setPeer i { peer with slot := slot })

/-! ## Well-formed tables -/

/-- The table invariant. -/
structure WF (table : PeerTable) : Prop where
  zero : (table.peers 0).active = false
  wcid : ∀ i, (table.peers i).active = true → (table.peers i).wcid = UInt8.ofNat i
  slot : ∀ i, (table.peers i).active = true →
    (table.peers i).slot = noSlot ∨ (table.peers i).slot < 8 ∧
      (table.peers i).slot = UInt8.ofNat i - 1
  unique : ∀ i j, (table.peers i).active = true → (table.peers j).active = true →
    (table.peers i).mac = (table.peers j).mac → i = j
  next_pos : 0 < table.nextWcid.toNat
  next_le : table.nextWcid.toNat ≤ 127
  /-- the entries below the counter are in use -/
  used : ∀ i : Fin maxPeers, 0 < i.val → i.val < table.nextWcid.toNat →
    (table.peers i).active = true
  /-- the others are not, until the counter stops at the last entry -/
  fresh : table.nextWcid.toNat < 127 → ∀ i : Fin maxPeers, table.nextWcid.toNat ≤ i.val →
    (table.peers i).active = false

theorem initial_wf : WF {} where
  zero := rfl
  wcid := fun _ hactive => nomatch hactive
  slot := fun _ hactive => nomatch hactive
  unique := fun _ _ hactive => nomatch hactive
  next_pos := by decide
  next_le := by decide
  used := by
    intro i hpos hlt
    have hnext : ({} : PeerTable).nextWcid.toNat = 1 := rfl
    omega
  fresh := fun _ _ _ => rfl

variable {table : PeerTable}

theorem setPeer_peers (i j : Fin maxPeers) (peer : Peer) :
    (table.setPeer i peer).peers j = if j = i then peer else table.peers j := by
  simp [setPeer, Function.update_apply]

@[simp] theorem setPeer_same (i : Fin maxPeers) (peer : Peer) :
    (table.setPeer i peer).peers i = peer := by
  rw [setPeer_peers, if_pos rfl]

theorem setPeer_other {i j : Fin maxPeers} (hne : j ≠ i) (peer : Peer) :
    (table.setPeer i peer).peers j = table.peers j := by
  rw [setPeer_peers, if_neg hne]

/-- A field that a change of one entry keeps there is kept in all of them. -/
theorem setPeer_keeps {β : Type*} (field : Peer → β) {i : Fin maxPeers} {peer : Peer}
    (hsame : field peer = field (table.peers i)) (j : Fin maxPeers) :
    field ((table.setPeer i peer).peers j) = field (table.peers j) := by
  by_cases hj : j = i
  · rw [hj, setPeer_same, hsame]
  · rw [setPeer_other hj]

/-! ## Look-up -/

theorem mem_entries {i : Fin maxPeers} : i ∈ (List.finRange maxPeers).drop 1 ↔ i ≠ 0 := by
  rw [List.finRange_succ, List.drop_one, List.tail_cons, List.mem_map]
  constructor
  · rintro ⟨j, -, rfl⟩
    exact Fin.succ_ne_zero j
  · intro hne
    obtain ⟨j, rfl⟩ := Fin.eq_succ_of_ne_zero hne
    exact ⟨j, List.mem_finRange j, rfl⟩

theorem findPeerByMac_some {mac : Mac} {i : Fin maxPeers}
    (hfind : table.findPeerByMac mac = some i) :
    (table.peers i).active = true ∧ (table.peers i).mac = mac := by
  have htest := List.find?_some hfind
  simpa using htest

theorem findPeerByMac_none {mac : Mac} (hfind : table.findPeerByMac mac = none)
    {i : Fin maxPeers} (hi : i ≠ 0) (hactive : (table.peers i).active = true) :
    (table.peers i).mac ≠ mac := by
  have htest := List.find?_eq_none.mp hfind i (mem_entries.mpr hi)
  simpa [hactive] using htest

theorem entry_pos {i : Fin maxPeers} (hi : i ≠ 0) : 0 < i.val :=
  Nat.pos_of_ne_zero fun hzero => hi (Fin.ext hzero)

theorem WF.index_pos (hwf : table.WF) {i : Fin maxPeers}
    (hactive : (table.peers i).active = true) : i ≠ 0 := by
  rintro rfl
  rw [hwf.zero] at hactive
  cases hactive

/-- In a well-formed table an address leads to its entry and to no other. -/
theorem WF.findPeerByMac_iff (hwf : table.WF) {mac : Mac} {i : Fin maxPeers} :
    table.findPeerByMac mac = some i ↔
      (table.peers i).active = true ∧ (table.peers i).mac = mac := by
  constructor
  · exact findPeerByMac_some
  · intro hboth
    obtain ⟨hactive, hmac⟩ := hboth
    cases hfind : table.findPeerByMac mac with
    | none => exact absurd hmac (findPeerByMac_none hfind (hwf.index_pos hactive) hactive)
    | some j =>
        obtain ⟨hjactive, hjmac⟩ := findPeerByMac_some hfind
        rw [hwf.unique j i hjactive hactive (hjmac.trans hmac.symm)]

/-! ## Allocation -/

theorem remember_known {mac : Mac} {i : Fin maxPeers} (hfind : table.findPeerByMac mac = some i) :
    table.remember mac = (some i, table) := by
  simp only [remember, hfind]

/-- The entry the counter points at. -/
def WF.next (hwf : table.WF) : Fin maxPeers :=
  ⟨table.nextWcid.toNat, Nat.lt_succ_of_le hwf.next_le⟩

/-- The counter after an allocation. -/
def bump (next : UInt8) : UInt8 :=
  if next < 127 then next + 1 else next

theorem bump_toNat (next : UInt8) (hle : next.toNat ≤ 127) :
    (bump next).toNat = min (next.toNat + 1) 127 := by
  have hlast : (127 : UInt8).toNat = 127 := rfl
  have hone : (1 : UInt8).toNat = 1 := rfl
  unfold bump
  split
  next hlt =>
    rw [UInt8.lt_iff_toNat_lt] at hlt
    rw [UInt8.toNat_add]
    omega
  next hge =>
    rw [UInt8.lt_iff_toNat_lt] at hge
    omega

theorem WF.remember_new (hwf : table.WF) {mac : Mac} (hfind : table.findPeerByMac mac = none) :
    table.remember mac = (some hwf.next,
      { table.setPeer hwf.next (newPeer table.nextWcid mac) with
        nextWcid := bump table.nextWcid }) := by
  have hlt : table.nextWcid.toNat < maxPeers := Nat.lt_succ_of_le hwf.next_le
  simp only [remember, hfind, dif_pos hlt]
  rfl

theorem WF.next_ne_zero (hwf : table.WF) : hwf.next ≠ 0 := by
  intro heq
  have hval := congrArg Fin.val heq
  have hpos := hwf.next_pos
  simp only [WF.next, Fin.val_zero] at hval
  omega

/-- Registering an address keeps the table well formed, also when the counter has stopped. -/
theorem WF.remember (hwf : table.WF) (mac : Mac) : (table.remember mac).2.WF := by
  cases hfind : table.findPeerByMac mac with
  | some i =>
      rw [remember_known hfind]
      exact hwf
  | none =>
      rw [hwf.remember_new hfind]
      have hnext := bump_toNat table.nextWcid hwf.next_le
      have hle := hwf.next_le
      have hpos := hwf.next_pos
      have hval : hwf.next.val = table.nextWcid.toNat := rfl
      have hother : ∀ i, (table.peers i).active = true → (table.peers i).mac ≠ mac :=
        fun i hactive => findPeerByMac_none hfind (hwf.index_pos hactive) hactive
      refine ⟨?_, ?_, ?_, ?_, ?_, ?_, ?_, ?_⟩
      · change ((table.setPeer hwf.next _).peers 0).active = false
        rw [setPeer_other hwf.next_ne_zero.symm]
        exact hwf.zero
      · intro i
        simp only [setPeer_peers]
        split
        next heq =>
          intro _
          rw [heq, newPeer, hval, UInt8.ofNat_toNat]
        next => exact hwf.wcid i
      · intro i
        simp only [setPeer_peers]
        split
        next => exact fun _ => Or.inl rfl
        next => exact hwf.slot i
      -- no two entries share an address: the new one was not found in the table
      · intro i j
        simp only [setPeer_peers]
        split
        next hi =>
          split
          next hj => exact fun _ _ _ => hi.trans hj.symm
          next => exact fun _ hactive hmac => absurd hmac.symm (hother j hactive)
        next =>
          split
          next => exact fun hactive _ hmac => absurd hmac (hother i hactive)
          next => exact hwf.unique i j
      · change 0 < (bump table.nextWcid).toNat
        omega
      · change (bump table.nextWcid).toNat ≤ 127
        omega
      -- below the counter every entry is in use, from it on none is
      · intro i hi hlt
        simp only [setPeer_peers]
        split
        next => rfl
        next hne =>
          have hne' : i.val ≠ table.nextWcid.toNat := fun heq => hne (Fin.ext heq)
          change i.val < (bump table.nextWcid).toNat at hlt
          exact hwf.used i hi (by omega)
      · intro hlt i hge
        change (bump table.nextWcid).toNat < 127 at hlt
        change (bump table.nextWcid).toNat ≤ i.val at hge
        simp only [setPeer_peers]
        split
        next heq =>
          have heq' : i.val = table.nextWcid.toNat := congrArg Fin.val heq
          omega
        next => exact hwf.fresh (by omega) i (by omega)

/-- In a well-formed table `remember_peer` always returns an entry, the one the address
is found under from then on. -/
theorem WF.remember_find (hwf : table.WF) (mac : Mac) :
    ∃ i, (table.remember mac).1 = some i ∧ (table.remember mac).2.findPeerByMac mac = some i := by
  have hwf' := hwf.remember mac
  cases hfind : table.findPeerByMac mac with
  | some i =>
      rw [remember_known hfind]
      exact ⟨i, rfl, hfind⟩
  | none =>
      rw [hwf.remember_new hfind] at hwf' ⊢
      refine ⟨hwf.next, rfl, hwf'.findPeerByMac_iff.mpr ?_⟩
      simp only [setPeer_same]
      exact ⟨rfl, rfl⟩

/-- Changing flags of an entry, but neither its address nor its WCID, keeps the table
well formed. -/
theorem WF.setPeer (hwf : table.WF) {i : Fin maxPeers} {peer : Peer}
    (hactive : peer.active = (table.peers i).active) (hmac : peer.mac = (table.peers i).mac)
    (hwcid : peer.wcid = (table.peers i).wcid)
    (hslot : peer.slot = (table.peers i).slot ∨ peer.slot < 8 ∧ peer.slot = UInt8.ofNat i - 1) :
    (table.setPeer i peer).WF := by
  have hsame : ∀ j, ((table.setPeer i peer).peers j).active = (table.peers j).active ∧
      ((table.setPeer i peer).peers j).mac = (table.peers j).mac ∧
      ((table.setPeer i peer).peers j).wcid = (table.peers j).wcid :=
    fun j => ⟨setPeer_keeps Peer.active hactive j, setPeer_keeps Peer.mac hmac j,
      setPeer_keeps Peer.wcid hwcid j⟩
  refine ⟨?_, ?_, ?_, ?_, hwf.next_pos, hwf.next_le, ?_, ?_⟩
  · rw [(hsame 0).1]
    exact hwf.zero
  · intro j
    rw [(hsame j).1, (hsame j).2.2]
    exact hwf.wcid j
  · intro j
    rw [(hsame j).1, setPeer_peers]
    split
    next heq =>
      subst heq
      intro hj
      rcases hslot with hkept | hmapped
      · rw [hkept]
        exact hwf.slot _ hj
      · exact Or.inr hmapped
    next => exact hwf.slot j
  · intro j k
    rw [(hsame j).1, (hsame k).1, (hsame j).2.1, (hsame k).2.1]
    exact hwf.unique j k
  · intro j
    rw [(hsame j).1]
    exact hwf.used j
  · intro hlt j
    rw [(hsame j).1]
    exact hwf.fresh hlt j

end PeerTable

end XoneDarwin
