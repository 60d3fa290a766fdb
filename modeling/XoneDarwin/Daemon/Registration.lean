import XoneDarwin.Daemon.Peers
import XoneDarwin.Mt76.Traffic

/-!
# Registering stations

`remember_peer` refines a registry that numbers stations by arrival, as long as no
more than 127 of them show up. Then a WCID is given for life; the 128th station
takes the last entry away from its owner, because the counter stops at 127 and
the capacity test behind it never fails.
-/

namespace XoneDarwin

open Machine (run arrivals enrol Emits)

variable (world : World)

/-- `remember_peer`: a fresh entry is also written to the hardware table. -/
def rememberPeer (mac : Mac) (daemon : Daemon) : Option (Fin maxPeers) × Daemon :=
  let remembered := daemon.table.remember mac
  let usb :=
    match daemon.table.findPeerByMac mac, remembered.1 with
    | none, some wcid => mt76AddWcid world.dongle (UInt8.ofNat wcid) mac daemon.air.usb
    | _, _ => daemon.air.usb
  (remembered.1, { daemon with table := remembered.2, air := { daemon.air with usb := usb } })

theorem rememberPeer_emits (mac : Mac) (daemon : Daemon) :
    Emits UsbIo.IsCtrl daemon.air.usb (rememberPeer world mac daemon).2.air.usb := by
  simp only [rememberPeer]
  split
  · exact mt76AddWcid_ctrl world.dongle _ mac _
  · exact Emits.refl _

/-! ## Runs of registrations -/

/-- The daemon after registering `macs` in order, from the initial tables. -/
def rememberAll (macs : List Mac) : Daemon :=
  run (fun daemon mac => (rememberPeer world mac daemon).2) {} macs

/-- The WCID `remember_peer` returns for `mac` after the calls `before`. -/
def wcidGiven (before : List Mac) (mac : Mac) : Option UInt8 :=
  let result := rememberPeer world mac (rememberAll world before)
  result.1.map fun i => (result.2.table.peers i).wcid

/-- WCIDs are given for life in the run `macs`. -/
structure WcidForLife (macs : List Mac) : Prop where
  /-- calls with different addresses return different WCIDs -/
  distinct : ∀ before mac between mac' after,
    macs = (before ++ mac :: between) ++ mac' :: after → mac ≠ mac' →
    ∀ wcid wcid', wcidGiven world before mac = some wcid →
      wcidGiven world (before ++ mac :: between) mac' = some wcid' → wcid ≠ wcid'
  /-- an address that was given a WCID keeps it -/
  kept : ∀ before mac later after, macs = (before ++ mac :: later) ++ after →
    ∀ wcid, wcidGiven world before mac = some wcid →
      ∃ i, (rememberAll world (before ++ mac :: later)).table.findPeerByMac mac = some i ∧
        ((rememberAll world (before ++ mac :: later)).table.peers i).wcid = wcid
  /-- a new address is refused once no WCID is left -/
  refused : ∀ before mac after, macs = before ++ mac :: after →
    (∀ i, i ≠ 0 → ((rememberAll world before).table.peers i).active = true) →
    (rememberAll world before).table.findPeerByMac mac = none →
    (rememberPeer world mac (rememberAll world before)).1 = none ∧
      (rememberPeer world mac (rememberAll world before)).2.table =
        (rememberAll world before).table

/-! ## Refinement of the registry -/

namespace PeerTable

/-- The table of a registry that knows `known`. -/
def ofRegistry (known : List Mac) : PeerTable where
  peers i :=
    if i = 0 then {}
    else
      match known[i.val - 1]? with
      | some mac => newPeer (UInt8.ofNat i) mac
      | none => {}
  nextWcid := UInt8.ofNat (min (known.length + 1) 127)

variable {known : List Mac}

theorem ofRegistry_next (known : List Mac) :
    (ofRegistry known).nextWcid.toNat = min (known.length + 1) 127 := by
  rw [ofRegistry, UInt8.toNat_ofNat']
  omega

theorem ofRegistry_peer {i : Fin maxPeers} {mac : Mac} (hi : i ≠ 0)
    (hmac : known[i.val - 1]? = some mac) :
    (ofRegistry known).peers i = newPeer (UInt8.ofNat i) mac := by
  simp only [ofRegistry, if_neg hi, hmac]

theorem ofRegistry_active {i : Fin maxPeers} :
    ((ofRegistry known).peers i).active = true ↔ i ≠ 0 ∧ i.val ≤ known.length := by
  by_cases hi : i = 0
  · simp [ofRegistry, hi]
  · have hpos : 0 < i.val := entry_pos hi
    cases hmac : known[i.val - 1]? with
    | none =>
        have hlong := List.getElem?_eq_none_iff.mp hmac
        simp only [ofRegistry, if_neg hi, hmac]
        constructor
        · intro hfalse
          cases hfalse
        · intro hrange
          obtain ⟨-, hle⟩ := hrange
          omega
    | some mac =>
        obtain ⟨hlt, -⟩ := List.getElem?_eq_some_iff.mp hmac
        rw [ofRegistry_peer hi hmac]
        exact iff_of_true rfl ⟨hi, by omega⟩

theorem ofRegistry_mac {i : Fin maxPeers} (hactive : ((ofRegistry known).peers i).active = true) :
    known[i.val - 1]? = some ((ofRegistry known).peers i).mac := by
  obtain ⟨hi, hle⟩ := ofRegistry_active.mp hactive
  have hpos : 0 < i.val := entry_pos hi
  have hlt : i.val - 1 < known.length := by omega
  have hmac := List.getElem?_eq_getElem hlt
  rw [ofRegistry_peer hi hmac, hmac]
  rfl

theorem ofRegistry_wf (hnodup : known.Nodup) (hfit : known.length ≤ 127) :
    (ofRegistry known).WF := by
  have hnext := ofRegistry_next known
  refine ⟨rfl, ?_, ?_, ?_, by omega, by omega, ?_, ?_⟩
  · intro i hactive
    rw [ofRegistry_peer (ofRegistry_active.mp hactive).1 (ofRegistry_mac hactive)]
    rfl
  · intro i hactive
    rw [ofRegistry_peer (ofRegistry_active.mp hactive).1 (ofRegistry_mac hactive)]
    exact Or.inl rfl
  · intro i j hi hj hmac
    have hsame := (ofRegistry_mac hi).trans (hmac ▸ (ofRegistry_mac hj).symm)
    obtain ⟨hi0, hile⟩ := ofRegistry_active.mp hi
    obtain ⟨hj0, -⟩ := ofRegistry_active.mp hj
    have hipos : 0 < i.val := entry_pos hi0
    have hjpos : 0 < j.val := entry_pos hj0
    have hindex := (List.getElem?_inj (by omega) hnodup).mp hsame
    exact Fin.ext (by omega)
  · intro i hpos hlt
    refine ofRegistry_active.mpr ⟨?_, by omega⟩
    rintro rfl
    exact absurd hpos (by simp)
  · intro hlt i hge
    by_contra hactive
    obtain ⟨-, hle⟩ := ofRegistry_active.mp (Bool.eq_true_of_not_eq_false hactive)
    omega

/-- A known address is found under its number. -/
theorem ofRegistry_find (hnodup : known.Nodup) (hfit : known.length ≤ 127) {mac : Mac}
    (hmac : mac ∈ known) :
    ∃ i, (ofRegistry known).findPeerByMac mac = some i ∧ i.val = known.idxOf mac + 1 ∧
      (ofRegistry known).peers i = newPeer (UInt8.ofNat i) mac := by
  have hlt := List.idxOf_lt_length_iff.mpr hmac
  let i : Fin maxPeers := ⟨known.idxOf mac + 1, Nat.lt_succ_of_le (by omega)⟩
  have hi : i ≠ 0 := by
    intro hzero
    exact absurd (congrArg Fin.val hzero) (by simp [i])
  have hget : known[i.val - 1]? = some mac := by
    rw [Nat.add_sub_cancel, List.getElem?_eq_getElem hlt, List.getElem_idxOf]
  have hpeer := ofRegistry_peer hi hget
  refine ⟨i, (ofRegistry_wf hnodup hfit).findPeerByMac_iff.mpr ?_, rfl, hpeer⟩
  rw [hpeer]
  exact ⟨rfl, rfl⟩

theorem ofRegistry_find_new {mac : Mac} (hmac : mac ∉ known) :
    (ofRegistry known).findPeerByMac mac = none := by
  cases hfind : (ofRegistry known).findPeerByMac mac with
  | none => rfl
  | some i =>
      obtain ⟨hactive, hsame⟩ := findPeerByMac_some hfind
      have hget := ofRegistry_mac hactive
      rw [hsame] at hget
      exact absurd (List.mem_of_getElem? hget) hmac

/-- Registering a new address extends the registry. -/
theorem ofRegistry_append {mac : Mac} (hfit : known.length < 127) :
    { (ofRegistry known).setPeer ⟨known.length + 1, Nat.lt_succ_of_le (by omega)⟩
        (newPeer (ofRegistry known).nextWcid mac) with
      nextWcid := bump (ofRegistry known).nextWcid } = ofRegistry (known ++ [mac]) := by
  have hnext := ofRegistry_next known
  have hbump := bump_toNat (ofRegistry known).nextWcid (by omega)
  apply PeerTable.ext
  · funext i
    simp only [setPeer_peers]
    split
    next heq =>
      subst heq
      have hlast : (known ++ [mac])[known.length + 1 - 1]? = some mac := by simp
      rw [ofRegistry_peer (by simp [Fin.ext_iff]) hlast]
      rw [← UInt8.ofNat_toNat (x := (ofRegistry known).nextWcid), hnext]
      congr 2
      exact Nat.min_eq_left (by omega)
    next hne =>
      by_cases hi : i = 0
      · simp [ofRegistry, hi]
      · have hpos : 0 < i.val := entry_pos hi
        have hval : i.val - 1 ≠ known.length := fun heq => hne (Fin.ext (by simp; omega))
        simp only [ofRegistry, if_neg hi]
        by_cases hlt : i.val - 1 < known.length
        · rw [List.getElem?_append_left hlt]
        · rw [List.getElem?_eq_none (by omega), List.getElem?_eq_none (by simp; omega)]
  · apply UInt8.toNat_inj.mp
    rw [hbump, hnext, ofRegistry_next, List.length_append, List.length_singleton]
    omega

/-- `remember` steps the registry, within its capacity. -/
theorem ofRegistry_remember (hnodup : known.Nodup) {mac : Mac}
    (hfit : (enrol known mac).length ≤ 127) :
    ((ofRegistry known).remember mac).2 = ofRegistry (enrol known mac) := by
  by_cases hmac : mac ∈ known
  · rw [enrol, if_pos hmac] at hfit ⊢
    obtain ⟨i, hfind, -⟩ := ofRegistry_find hnodup hfit hmac
    rw [remember_known hfind]
  · rw [enrol, if_neg hmac] at hfit ⊢
    rw [List.length_append, List.length_singleton] at hfit
    have hwf := ofRegistry_wf hnodup (Nat.le_of_succ_le hfit)
    have hnext : hwf.next = ⟨known.length + 1, Nat.lt_succ_of_le (by omega)⟩ := by
      apply Fin.ext
      change (ofRegistry known).nextWcid.toNat = known.length + 1
      rw [ofRegistry_next]
      omega
    rw [hwf.remember_new (ofRegistry_find_new hmac), hnext]
    exact ofRegistry_append (by omega)

theorem ofRegistry_nil : ofRegistry [] = {} := by
  apply PeerTable.ext
  · funext i
    simp [ofRegistry]
  · rfl

end PeerTable

/-! ## WCIDs for life -/

theorem rememberAll_concat (macs : List Mac) (mac : Mac) :
    (rememberAll world (macs ++ [mac])).table = ((rememberAll world macs).table.remember mac).2 := by
  rw [rememberAll, Machine.run_concat]
  rfl

/-- Up to 127 stations the table is the one of the registry. -/
theorem rememberAll_table {macs : List Mac} (hfit : (arrivals macs).length ≤ 127) :
    (rememberAll world macs).table = PeerTable.ofRegistry (arrivals macs) := by
  induction macs using List.reverseRecOn with
  | nil => exact PeerTable.ofRegistry_nil.symm
  | append_singleton macs mac ih =>
      have hshorter := (Machine.arrivals_extends macs [mac]).length_le
      rw [Machine.arrivals_concat] at hfit hshorter ⊢
      rw [rememberAll_concat, ih (by omega)]
      exact PeerTable.ofRegistry_remember (Machine.nodup_arrivals macs) hfit

/-- Within the capacity the WCID is the arrival number. -/
theorem wcidGiven_eq {macs before : List Mac} {mac : Mac} {after : List Mac}
    (hfit : (arrivals macs).length ≤ 127) (hsplit : macs = before ++ mac :: after) :
    wcidGiven world before mac = some (UInt8.ofNat ((arrivals macs).idxOf mac + 1)) := by
  have hmacs : macs = (before ++ [mac]) ++ after := by simp [hsplit]
  have hlonger := (Machine.arrivals_extends (before ++ [mac]) after).length_le
  rw [← hmacs] at hlonger
  have hstep := (Machine.arrivals_extends before [mac]).length_le
  have hnodup := Machine.nodup_arrivals (before ++ [mac])
  have hmem : mac ∈ arrivals (before ++ [mac]) := Machine.mem_arrivals.mpr (by simp)
  have hwf : (rememberAll world before).table.WF := by
    rw [rememberAll_table world (by omega)]
    exact PeerTable.ofRegistry_wf (Machine.nodup_arrivals before) (by omega)
  obtain ⟨i, hreturned, hfound⟩ := hwf.remember_find mac
  obtain ⟨j, hfind, hval, hpeer⟩ := PeerTable.ofRegistry_find hnodup (by omega) hmem
  rw [← rememberAll_concat, rememberAll_table world (by omega), hfind] at hfound
  cases hfound
  have hafter : (rememberPeer world mac (rememberAll world before)).2.table =
      PeerTable.ofRegistry (arrivals (before ++ [mac])) := by
    rw [← rememberAll_table world (by omega), rememberAll_concat]
    rfl
  have hreturned' : (rememberPeer world mac (rememberAll world before)).1 = some i := hreturned
  simp only [wcidGiven, hreturned', hafter, Option.map_some, hpeer]
  rw [hmacs, Machine.idxOf_arrivals_append (Machine.mem_arrivals.mp hmem), ← hval]
  rfl

theorem wcidForLife_of_fit {macs : List Mac} (hfit : (arrivals macs).length ≤ 127) :
    WcidForLife world macs where
  distinct := by
    intro before mac between mac' after hsplit hne wcid wcid' hwcid hwcid'
    have hearlier : macs = before ++ mac :: (between ++ mac' :: after) := by simp [hsplit]
    rw [wcidGiven_eq world hfit hearlier, Option.some.injEq] at hwcid
    rw [wcidGiven_eq world hfit hsplit, Option.some.injEq] at hwcid'
    have hmem : mac ∈ macs := by simp [hsplit]
    have hmem' : mac' ∈ macs := by simp [hsplit]
    have hlt := List.idxOf_lt_length_iff.mpr (Machine.mem_arrivals.mpr hmem)
    have hlt' := List.idxOf_lt_length_iff.mpr (Machine.mem_arrivals.mpr hmem')
    rintro rfl
    have hnumber := congrArg UInt8.toNat (hwcid.trans hwcid'.symm)
    rw [UInt8.toNat_ofNat', UInt8.toNat_ofNat'] at hnumber
    exact hne (Machine.idxOf_arrivals_inj hmem (by omega))
  kept := by
    intro before mac later after hsplit wcid hwcid
    have hlonger := (Machine.arrivals_extends (before ++ mac :: later) after).length_le
    rw [← hsplit] at hlonger
    have hshort : (arrivals (before ++ mac :: later)).length ≤ 127 := by omega
    have hmem : mac ∈ before ++ mac :: later := by simp
    have hnodup := Machine.nodup_arrivals (before ++ mac :: later)
    rw [wcidGiven_eq world hshort rfl, Option.some.injEq] at hwcid
    obtain ⟨i, hfind, hval, hpeer⟩ :=
      PeerTable.ofRegistry_find hnodup hshort (Machine.mem_arrivals.mpr hmem)
    rw [rememberAll_table world hshort]
    refine ⟨i, hfind, ?_⟩
    rw [hpeer, ← hwcid, ← hval]
    rfl
  refused := by
    intro before mac after hsplit hfull hnew
    have hmacs : macs = (before ++ [mac]) ++ after := by simp [hsplit]
    have hlonger := (Machine.arrivals_extends (before ++ [mac]) after).length_le
    have hstep := (Machine.arrivals_extends before [mac]).length_le
    rw [← hmacs] at hlonger
    rw [rememberAll_table world (by omega)] at hfull hnew
    obtain ⟨-, hall⟩ := PeerTable.ofRegistry_active.mp (hfull (Fin.last 127) (by decide))
    have hknown : mac ∈ arrivals before := by
      by_contra hmem
      rw [Machine.arrivals_concat, enrol, if_neg hmem, List.length_append] at hlonger
      simp only [Fin.val_last, List.length_singleton] at hall hlonger
      omega
    obtain ⟨i, hfind, -⟩ :=
      PeerTable.ofRegistry_find (Machine.nodup_arrivals before) (by omega) hknown
    rw [hfind] at hnew
    cases hnew

/-- A 128th station is not refused. -/
theorem not_wcidForLife_of_overflow {macs : List Mac} (hmany : 127 < (arrivals macs).length) :
    ¬WcidForLife world macs := by
  intro hlife
  obtain ⟨before, mac, after, hsplit, hlength, hnew⟩ := Machine.exists_overflow hmany
  have htable : (rememberAll world before).table = PeerTable.ofRegistry (arrivals before) :=
    rememberAll_table world (by omega)
  have hfull : ∀ i, i ≠ 0 → ((rememberAll world before).table.peers i).active = true := by
    intro i hi
    rw [htable]
    exact PeerTable.ofRegistry_active.mpr ⟨hi, hlength ▸ Nat.le_of_lt_succ i.isLt⟩
  have hunknown : (rememberAll world before).table.findPeerByMac mac = none := by
    rw [htable]
    exact PeerTable.ofRegistry_find_new fun hmem => hnew (Machine.mem_arrivals.mp hmem)
  have hwf : (rememberAll world before).table.WF := by
    rw [htable]
    exact PeerTable.ofRegistry_wf (Machine.nodup_arrivals before) (by omega)
  obtain ⟨i, hreturned, -⟩ := hwf.remember_find mac
  have hrefused := (hlife.refused before mac after hsplit hfull hunknown).1
  have hreturned' : (rememberPeer world mac (rememberAll world before)).1 = some i := hreturned
  rw [hreturned'] at hrefused
  cases hrefused

/-- WCIDs are given for life in exactly those runs in which at most 127 different
addresses are registered. -/
theorem wcidForLife_iff (macs : List Mac) :
    WcidForLife world macs ↔ macs.dedup.length ≤ 127 := by
  rw [← Machine.length_arrivals]
  constructor
  · intro hlife
    by_contra hmany
    exact not_wcidForLife_of_overflow world (by omega) hlife
  · exact wcidForLife_of_fit world

/-- 128 stations that differ in their last byte. -/
def crowd : List Mac :=
  (List.range 128).map fun k => ⟨0x62, 0x45, 0xbd, 0, 0, UInt8.ofNat k⟩

theorem crowd_nodup : crowd.Nodup := by
  refine List.Nodup.map_on ?_ List.nodup_range
  intro x hx y hy heq
  rw [List.mem_range] at hx hy
  have hlast := congrArg (fun mac => mac.b5.toNat) heq
  simp only [UInt8.toNat_ofNat'] at hlast
  omega

/-- A world whose dongle accepts every transfer and whose host creates every device. -/
def plainWorld : World where
  pid := .v3
  dongle := stillDongle
  host := ⟨fun _ _ _ => true⟩

/-- The 128th station of a crowd is not refused, but given the WCID of the 127th. -/
theorem crowd_not_wcidForLife : ¬WcidForLife plainWorld crowd := by
  refine not_wcidForLife_of_overflow plainWorld ?_
  rw [Machine.length_arrivals, crowd_nodup.dedup, crowd, List.length_map, List.length_range]
  decide

end XoneDarwin
