import XoneDarwin.Daemon.Recovery

/-!
# Controllers do not interfere

A controller's peer entry and pad form a machine of their own. It steps on the
stimuli about this controller and on nothing else, and nothing else depends on
it. So runs can be cut down to one controller, and frames of different
controllers commute.
-/

namespace XoneDarwin

open Machine (run)

/-! ## One controller -/

/-- What belongs to one controller. -/
@[ext] structure Own where
  peer : Peer
  pad : Pad

namespace Own

variable (s : Fin maxSlots)

/-- First contact maps the slot and connects the pad. -/
def attach (own : Own) : Own where
  peer := { own.peer with slot := UInt8.ofNat s, handshakeDone := true }
  pad := if own.peer.handshakeDone then own.pad else own.pad.apply .connect

def dispatch (own : Own) : GipEvent → Own
  | .pad event => { own with pad := own.pad.apply event }
  | .announce =>
      { own with peer :=
          { own.peer with initialCommandsSent := true, sessionInitialized := true } }
  | .other => own

/-- The controller with slot `s` as a machine. -/
def step (own : Own) : Stimulus → Own
  | .quiet => own
  | .register _ => own
  | .associate _ _ =>
      if own.peer.sessionInitialized then own
      else { own with peer := { own.peer with fwClientAdded := true } }
  | .action _ => own.attach s
  | .data _ frame => (own.attach s).dispatch frame.event
  | .lost _ => { own with pad := own.pad.apply .disconnect }

/-- A controller stays the station it is. -/
theorem step_station (own : Own) (stimulus : Stimulus) :
    (own.step s stimulus).peer.active = own.peer.active ∧
      (own.step s stimulus).peer.mac = own.peer.mac := by
  cases stimulus with
  | associate mac reassoc =>
      simp only [step]
      split <;> exact ⟨rfl, rfl⟩
  | data mac frame =>
      simp only [step]
      cases frame.event <;> exact ⟨rfl, rfl⟩
  | quiet => exact ⟨rfl, rfl⟩
  | register mac => exact ⟨rfl, rfl⟩
  | action mac => exact ⟨rfl, rfl⟩
  | lost gone => exact ⟨rfl, rfl⟩

end Own

/-- Is a stimulus about the controller `mac` with slot `s`? -/
def Stimulus.about (mac : Mac) (s : Fin maxSlots) : Stimulus → Bool
  | .quiet => false
  | .register sender => sender = mac
  | .associate sender _ => sender = mac
  | .action sender => sender = mac
  | .data sender _ => sender = mac
  | .lost gone => gone = s

namespace Link

variable (i : Fin maxPeers) (s : Fin maxSlots)

def own (link : Link) : Own := ⟨link.table.peers i, link.pads s⟩

def put (own : Own) (link : Link) : Link where
  table := link.table.setPeer i own.peer
  pads := Function.update link.pads s own.pad

/-- First contact of a station that may be new. -/
def contact (mac : Mac) (link : Link) : Link where
  table := (link.table.register mac).attach (link.table.entry mac)
  pads := applyEvents (link.table.attachEvents mac) link.pads

/-- The event of a frame from entry `i`, which may have no slot. -/
def dispatch (event : GipEvent) (link : Link) : Link :=
  match padOf? i, event with
  | some s, .pad event =>
      { link with pads := Function.update link.pads s ((link.pads s).apply event) }
  | some _, .announce => { link with table := link.table.greet i }
  | _, _ => link

theorem step_data (mac : Mac) (frame : GipFrame) (link : Link) :
    link.step (.data mac frame) =
      (link.contact mac).dispatch (link.table.entry mac) frame.event := by
  simp only [Link.step, PeerTable.step, PeerTable.padEvents, PeerTable.gipEvents, Link.dispatch]
  cases padOf? (link.table.entry mac) with
  | none =>
      cases frame.event <;> exact Link.ext (by simp [contact]) (by simp [contact, applyEvents])
  | some s =>
      cases frame.event with
      | pad event => exact Link.ext (by simp [contact]) (by simp [contact, applyEvents])
      | announce => exact Link.ext (by simp [contact]) (by simp [contact, applyEvents])
      | other => exact Link.ext (by simp [contact]) (by simp [contact, applyEvents])

theorem put_own (link : Link) : link.put i s (link.own i s) = link :=
  Link.ext (PeerTable.ext (Function.update_eq_self i link.table.peers) rfl)
    (Function.update_eq_self s link.pads)

theorem own_put (own : Own) (link : Link) : (link.put i s own).own i s = own :=
  Own.ext (PeerTable.setPeer_same i own.peer) (Function.update_self s _ _)

end Link

/-- Entry `i` belongs to the controller `mac`, which has slot `s`. -/
structure Link.Holds (mac : Mac) (i : Fin maxPeers) (s : Fin maxSlots) (link : Link) : Prop where
  wf : link.table.WF
  found : link.table.findPeerByMac mac = some i
  pad : padOf? i = some s

namespace Link.Holds

variable {mac : Mac} {i : Fin maxPeers} {s : Fin maxSlots} {link : Link}

/-- First contact of a registered controller is its own affair. -/
theorem contact_eq (hholds : link.Holds mac i s) :
    link.contact mac = link.put i s ((link.own i s).attach s) := by
  obtain ⟨hwf, hfound, hpad⟩ := hholds
  simp only [Link.contact, PeerTable.attachEvents, PeerTable.register_known hfound,
    PeerTable.entry_known hfound, PeerTable.attach_of_pad hpad, hpad]
  refine Link.ext rfl ?_
  change _ = Function.update link.pads s ((link.own i s).attach s).pad
  by_cases hdone : (link.table.peers i).handshakeDone = true
  · have hkept : ((link.own i s).attach s).pad = link.pads s := if_pos hdone
    rw [if_pos hdone, hkept, Function.update_eq_self]
    rfl
  · have hconnected : ((link.own i s).attach s).pad = (link.pads s).apply .connect := if_neg hdone
    rw [if_neg hdone, hconnected]
    rfl

/-- So is its association. -/
theorem associate_eq (hholds : link.Holds mac i s) (reassoc : Bool) :
    link.step (.associate mac reassoc) =
      link.put i s ((link.own i s).step s (.associate mac reassoc)) := by
  have hpads : link.pads = Function.update link.pads s (link.pads s) :=
    (Function.update_eq_self s link.pads).symm
  by_cases hsession : (link.table.peers i).sessionInitialized = true
  · have hown : (link.own i s).step s (.associate mac reassoc) = link.own i s := if_pos hsession
    rw [hown, Link.put_own]
    refine Link.ext ?_ rfl
    simp only [Link.step, PeerTable.step, sessionInitializedFor, hholds.found, if_pos hsession]
  · have hown : (link.own i s).step s (.associate mac reassoc) = _ := if_neg hsession
    rw [hown]
    refine Link.ext ?_ hpads
    simp only [Link.step, PeerTable.step, sessionInitializedFor, hholds.found, if_neg hsession,
      PeerTable.register_known hholds.found, PeerTable.entry_known hholds.found]
    rfl

theorem dispatch_put (hpad : padOf? i = some s) (own : Own) (event : GipEvent) :
    (link.put i s own).dispatch i event = link.put i s (own.dispatch event) := by
  simp only [Link.dispatch, hpad]
  cases event with
  | pad event =>
      refine Link.ext rfl ?_
      simp only [Link.put, Function.update_self, Function.update_idem]
      rfl
  | announce =>
      refine Link.ext ?_ rfl
      simp only [Link.put, PeerTable.greet, PeerTable.setPeer_same, PeerTable.setPeer_setPeer]
      rfl
  | other => rfl

/-- A stimulus about a controller changes what belongs to it, and nothing else. -/
theorem step_about (hholds : link.Holds mac i s) {stimulus : Stimulus}
    (habout : stimulus.about mac s = true) :
    link.step stimulus = link.put i s ((link.own i s).step s stimulus) := by
  have hregister := PeerTable.register_known hholds.found
  have hentry := PeerTable.entry_known hholds.found
  cases stimulus with
  | quiet => cases habout
  | register sender =>
      obtain rfl : sender = mac := of_decide_eq_true habout
      rw [Own.step, put_own]
      exact Link.ext hregister rfl
  | associate sender reassoc =>
      obtain rfl : sender = mac := of_decide_eq_true habout
      exact hholds.associate_eq reassoc
  | action sender =>
      obtain rfl : sender = mac := of_decide_eq_true habout
      exact hholds.contact_eq
  | data sender frame =>
      obtain rfl : sender = mac := of_decide_eq_true habout
      rw [Link.step_data, hentry, hholds.contact_eq, dispatch_put hholds.pad]
      rfl
  | lost gone =>
      obtain rfl : gone = s := of_decide_eq_true habout
      refine Link.ext ?_ rfl
      exact PeerTable.ext (Function.update_eq_self i _).symm rfl

end Link.Holds

/-! ## Everybody else -/

namespace PeerTable

variable {table : PeerTable} {i j : Fin maxPeers} {peer : Peer}

theorem setPeer_comm (table : PeerTable) (hne : j ≠ i) (peer other : Peer) :
    (table.setPeer i peer).setPeer j other = (table.setPeer j other).setPeer i peer := by
  refine PeerTable.ext ?_ rfl
  simp only [setPeer]
  exact Function.update_comm hne.symm peer other table.peers

/-- Registration does not look at the flags of an entry it does not take. -/
theorem WF.remember_setPeer (hwf : table.WF) (hactive : peer.active = (table.peers i).active)
    (hmac : peer.mac = (table.peers i).mac) (hne : table.nextWcid.toNat ≠ i.val) (mac : Mac) :
    (table.setPeer i peer).remember mac =
      ((table.remember mac).1, (table.remember mac).2.setPeer i peer) := by
  have hsame := findPeerByMac_congr (setPeer_station hactive hmac) mac
  have hlt : table.nextWcid.toNat < maxPeers := Nat.lt_succ_of_le hwf.next_le
  have hlt' : (table.setPeer i peer).nextWcid.toNat < maxPeers := hlt
  cases hfind : table.findPeerByMac mac with
  | some k => rw [remember_known hfind, remember_known (hsame.trans hfind)]
  | none =>
      simp only [PeerTable.remember, hsame, hfind, dif_pos hlt, dif_pos hlt']
      have hnext : hwf.next ≠ i := fun heq => hne (congrArg Fin.val heq)
      have hcomm := congrArg PeerTable.peers
        (setPeer_comm table hnext peer (newPeer table.nextWcid mac))
      exact Prod.ext rfl (PeerTable.ext hcomm rfl)

/-- The counter does not point at a controller with a slot. -/
theorem WF.next_ne (hwf : table.WF) {s : Fin maxSlots} (hactive : (table.peers i).active = true)
    (hpad : padOf? i = some s) : table.nextWcid.toNat ≠ i.val := by
  intro heq
  have hi := padOf?_some hpad
  have hs : s.val < 8 := s.isLt
  rw [hwf.fresh (by omega) i (by omega)] at hactive
  cases hactive

theorem attach_setPeer (hne : j ≠ i) (peer : Peer) :
    (table.setPeer i peer).attach j = (table.attach j).setPeer i peer := by
  unfold attach
  split
  · rfl
  · rw [setPeer_other hne]
    exact setPeer_comm table hne peer _

theorem addClient_setPeer (hne : j ≠ i) (peer : Peer) :
    (table.setPeer i peer).addClient j = (table.addClient j).setPeer i peer := by
  unfold addClient
  rw [setPeer_other hne]
  exact setPeer_comm table hne peer _

theorem greet_setPeer (hne : j ≠ i) (peer : Peer) :
    (table.setPeer i peer).greet j = (table.greet j).setPeer i peer := by
  unfold greet
  rw [setPeer_other hne]
  exact setPeer_comm table hne peer _

end PeerTable

theorem applyEvents_update {events : List (Fin maxSlots × PadEvent)} {s : Fin maxSlots}
    (hother : ∀ call ∈ events, call.1 ≠ s) (pad : Pad) (pads : Fin maxSlots → Pad) :
    applyEvents events (Function.update pads s pad) =
      Function.update (applyEvents events pads) s pad := by
  induction events generalizing pads with
  | nil => rfl
  | cons call rest ih =>
      have hne : call.1 ≠ s := hother call List.mem_cons_self
      have hrest := ih (fun call hcall => hother call (List.mem_cons_of_mem _ hcall))
      simp only [applyEvents, List.foldl_cons] at hrest ⊢
      rw [Function.update_of_ne hne, Function.update_comm hne.symm, hrest]

namespace Link.Holds

variable {mac sender : Mac} {i : Fin maxPeers} {s : Fin maxSlots} {link : Link} {own : Own}

/-- What belongs to a controller may change behind the back of the other stations. -/
structure Apart (mac : Mac) (i : Fin maxPeers) (own : Own) (link : Link) (sender : Mac) : Prop where
  entry : (link.table.setPeer i own.peer).entry sender = link.table.entry sender
  register : (link.table.setPeer i own.peer).register sender =
    (link.table.register sender).setPeer i own.peer
  other : link.table.entry sender ≠ i

theorem apart (hholds : link.Holds mac i s) (hactive : own.peer.active = true)
    (hmac : own.peer.mac = mac) (hsender : sender ≠ mac) : Apart mac i own link sender := by
  obtain ⟨hwf, hfound, hpad⟩ := hholds
  obtain ⟨hiactive, himac⟩ := PeerTable.findPeerByMac_some hfound
  have hremember := hwf.remember_setPeer (hactive.trans hiactive.symm)
    (hmac.trans himac.symm) (hwf.next_ne hiactive hpad) sender
  refine ⟨congrArg (fun result => result.1.getD 0) hremember, congrArg Prod.snd hremember, ?_⟩
  intro heq
  have hkept : ((link.table.register sender).peers i).mac = mac := by
    cases hfind : link.table.findPeerByMac sender with
    | some j => rwa [PeerTable.register_known hfind]
    | none =>
        have hne : i ≠ hwf.next := fun heq =>
          hwf.next_ne hiactive hpad (congrArg Fin.val heq).symm
        rw [PeerTable.register, hwf.remember_new hfind]
        rwa [PeerTable.setPeer_other hne]
  exact hsender ((hwf.entry_active sender).2.symm.trans (heq ▸ hkept))

theorem padOf?_inj {j k : Fin maxPeers} {r : Fin maxSlots} (hj : padOf? j = some r)
    (hk : padOf? k = some r) : j = k :=
  Fin.ext ((PeerTable.padOf?_some hj).trans (PeerTable.padOf?_some hk).symm)

/-- The pad events of another station miss the controller's pad. -/
theorem attachEvents_other (hpad : padOf? i = some s) (hother : link.table.entry sender ≠ i) :
    ∀ call ∈ link.table.attachEvents sender, call.1 ≠ s := by
  intro call hcall
  simp only [PeerTable.attachEvents] at hcall
  split at hcall
  next => exact absurd hcall List.not_mem_nil
  next r hr =>
    split at hcall
    next => exact absurd hcall List.not_mem_nil
    next =>
      rw [List.mem_singleton.mp hcall]
      rintro rfl
      exact hother (padOf?_inj hr hpad)

theorem contact_put (hpad : padOf? i = some s) (hapart : Apart mac i own link sender) :
    (link.put i s own).contact sender = (link.contact sender).put i s own := by
  obtain ⟨hentry, hregister, hother⟩ := hapart
  have hevents : (link.table.setPeer i own.peer).attachEvents sender =
      link.table.attachEvents sender := by
    simp only [PeerTable.attachEvents, hentry, hregister, PeerTable.setPeer_other hother]
  refine Link.ext ?_ ?_
  · simp only [Link.contact, Link.put, hentry, hregister]
    exact PeerTable.attach_setPeer hother own.peer
  · simp only [Link.contact, Link.put, hevents]
    exact applyEvents_update (attachEvents_other hpad hother) own.pad link.pads

theorem dispatch_put_other (hpad : padOf? i = some s) {j : Fin maxPeers} (hother : j ≠ i)
    (event : GipEvent) :
    (link.put i s own).dispatch j event = (link.dispatch j event).put i s own := by
  simp only [Link.dispatch]
  cases hj : padOf? j with
  | none => rfl
  | some r =>
      have hne : r ≠ s := by
        rintro rfl
        exact hother (padOf?_inj hj hpad)
      cases event with
      | pad event =>
          refine Link.ext rfl ?_
          simp only [Link.put, Function.update_of_ne hne]
          exact Function.update_comm hne.symm own.pad _ link.pads
      | announce => exact Link.ext (PeerTable.greet_setPeer hother own.peer) rfl
      | other => rfl

theorem sessionInitializedFor_put (hholds : link.Holds mac i s) (hactive : own.peer.active = true)
    (hmac : own.peer.mac = mac) (hsender : sender ≠ mac) :
    sessionInitializedFor sender (link.table.setPeer i own.peer) =
      sessionInitializedFor sender link.table := by
  obtain ⟨hiactive, himac⟩ := PeerTable.findPeerByMac_some hholds.found
  have hsame := PeerTable.findPeerByMac_congr (PeerTable.setPeer_station
    (hactive.trans hiactive.symm) (hmac.trans himac.symm)) sender
  simp only [sessionInitializedFor, hsame]
  cases hfind : link.table.findPeerByMac sender with
  | none => rfl
  | some j =>
      have hne : j ≠ i := by
        rintro rfl
        exact hsender ((PeerTable.findPeerByMac_some hfind).2.symm.trans himac)
      simp only [PeerTable.setPeer_other hne]

/-- Nothing else depends on what belongs to a controller. -/
theorem put_step (hholds : link.Holds mac i s) (hactive : own.peer.active = true)
    (hmac : own.peer.mac = mac) {stimulus : Stimulus} (hother : stimulus.about mac s = false) :
    (link.put i s own).step stimulus = (link.step stimulus).put i s own := by
  have hapart {sender : Mac} (hsender : sender ≠ mac) : Apart mac i own link sender :=
    hholds.apart hactive hmac hsender
  cases stimulus with
  | quiet => rfl
  | register sender => exact Link.ext (hapart (of_decide_eq_false hother)).register rfl
  | associate sender reassoc =>
      have hsender : sender ≠ mac := of_decide_eq_false hother
      obtain ⟨hentry, hregister, hne⟩ := hapart hsender
      refine Link.ext ?_ rfl
      simp only [Link.step, PeerTable.step, Link.put, hentry, hregister,
        hholds.sessionInitializedFor_put hactive hmac hsender]
      split
      · rfl
      · exact PeerTable.addClient_setPeer hne own.peer
  | action sender => exact contact_put hholds.pad (hapart (of_decide_eq_false hother))
  | data sender frame =>
      have hsender := hapart (of_decide_eq_false hother)
      rw [Link.step_data, Link.step_data, contact_put hholds.pad hsender]
      rw [← dispatch_put_other hholds.pad hsender.other]
      exact congrArg (fun j => ((link.contact sender).put i s own).dispatch j frame.event)
        hsender.entry
  | lost gone =>
      have hne : gone ≠ s := of_decide_eq_false hother
      refine Link.ext rfl ?_
      simp only [Link.step, PeerTable.padEvents, applyEvents, List.foldl_cons, List.foldl_nil,
        Link.put, Function.update_of_ne hne]
      exact Function.update_comm hne.symm own.pad _ link.pads

/-- In particular it is left alone. -/
theorem step_other (hholds : link.Holds mac i s) {stimulus : Stimulus}
    (hother : stimulus.about mac s = false) :
    (link.step stimulus).own i s = link.own i s := by
  obtain ⟨hactive, hmac⟩ := PeerTable.findPeerByMac_some hholds.found
  have hput : (link.put i s (link.own i s)).step stimulus = _ :=
    hholds.put_step hactive hmac hother
  rw [Link.put_own] at hput
  rw [hput, Link.own_put]

/-- A controller keeps its entry. -/
theorem step (hholds : link.Holds mac i s) (stimulus : Stimulus) :
    (link.step stimulus).Holds mac i s := by
  obtain ⟨hactive, hmac⟩ := PeerTable.findPeerByMac_some hholds.found
  have hwf : (link.step stimulus).table.WF := hholds.wf.step stimulus
  have hown : ((link.step stimulus).own i s).peer.active = true ∧
      ((link.step stimulus).own i s).peer.mac = mac := by
    cases habout : stimulus.about mac s with
    | true =>
        obtain ⟨hactive', hmac'⟩ := (link.own i s).step_station s stimulus
        rw [hholds.step_about habout, Link.own_put]
        exact ⟨hactive'.trans hactive, hmac'.trans hmac⟩
    | false =>
        rw [hholds.step_other habout]
        exact ⟨hactive, hmac⟩
  exact ⟨hwf, hwf.findPeerByMac_iff.mpr hown, hholds.pad⟩

/-- Stimuli of different controllers commute. -/
theorem step_comm (hholds : link.Holds mac i s) {stimulus other : Stimulus}
    (habout : stimulus.about mac s = true) (hother : other.about mac s = false) :
    (link.step stimulus).step other = (link.step other).step stimulus := by
  obtain ⟨hactive, hmac⟩ := PeerTable.findPeerByMac_some hholds.found
  obtain ⟨hactive', hmac'⟩ := (link.own i s).step_station s stimulus
  rw [hholds.step_about habout, (hholds.step other).step_about habout, hholds.step_other hother,
    hholds.put_step (hactive'.trans hactive) (hmac'.trans hmac) hother]

end Link.Holds

/-! ## Transfers about a controller -/

/-- A transfer that concerns the controller `mac` with WCID `wcid`: a WLAN frame it sent,
or the event that the dongle lost it. -/
def Transfer.Concerns (t : Transfer) (mac : Mac) (wcid : UInt8) : Prop :=
  (rxFrame? t).map RxFrame.src = some mac ∨ t.ReportsLost wcid

instance (t : Transfer) (mac : Mac) (wcid : UInt8) : Decidable (t.Concerns mac wcid) :=
  inferInstanceAs (Decidable (_ ∨ _))

def Step.concerns (mac : Mac) (wcid : UInt8) : Step → Bool
  | .transfer _ t => t.Concerns mac wcid
  | .housekeeping _ _ => false

/-- A frame is a stimulus about its sender, if it is one at all. -/
theorem RxFrame.stimulus_about (frame : RxFrame) (ourMac : Mac) :
    frame.stimulus ourMac = .quiet ∨
      ∀ mac s, (frame.stimulus ourMac).about mac s = decide (frame.src = mac) := by
  simp only [RxFrame.stimulus]
  split
  · exact Or.inr fun _ _ => rfl
  split
  · exact Or.inr fun _ _ => rfl
  split
  · split
    · exact Or.inr fun _ _ => rfl
    · exact Or.inl rfl
  split
  · exact Or.inr fun _ _ => rfl
  split
  · exact Or.inr fun _ _ => rfl
  split
  · exact Or.inr fun _ _ => rfl
  · exact Or.inl rfl

/-- A transfer that concerns a controller is a stimulus about it or none, and every
stimulus about it comes from such a transfer. -/
theorem Step.concerns_iff {mac : Mac} {wcid : UInt8} {s : Fin maxSlots}
    (hwcid : wcid.toNat = s.val + 1) (env : Env) (ourMac : Mac) (step : Step) :
    step.stimulus env ourMac = .quiet ∨
      (step.stimulus env ourMac).about mac s = step.concerns mac wcid := by
  cases step with
  | housekeeping now scanNow => exact Or.inl rfl
  | transfer now t =>
      cases hframe : rxFrame? t with
      | some frame =>
          rcases frame.stimulus_about ourMac with hquiet | habout
          · exact Or.inl ((Transfer.stimulus_frame hframe env ourMac).trans hquiet)
          · refine Or.inr ?_
            have hnot : ¬t.ReportsLost wcid := by
              intro hlost
              rw [hlost.not_frame] at hframe
              cases hframe
            simp only [Step.stimulus, Transfer.stimulus_frame hframe env ourMac, habout,
              Step.concerns, Transfer.Concerns, hframe, Option.map_some, Option.some.injEq, hnot,
              or_false]
      | none =>
          rcases Transfer.stimulus_event env ourMac hframe with
            hquiet | ⟨lostWcid, gone, hlost, hgone, hstimulus⟩
          · exact Or.inl hquiet
          · refine Or.inr ?_
            have hsame : (t.Concerns mac wcid) ↔ gone = s := by
              rw [Transfer.Concerns, hframe]
              constructor
              -- a transfer reports one WCID, and WCIDs and slots determine each other
              · rintro (hnone | hreports)
                · cases hnone
                · have heq := hlost.2.2.2.symm.trans hreports.2.2.2
                  rw [heq] at hgone
                  exact Fin.ext (by omega)
              · rintro rfl
                have heq : lostWcid = wcid := UInt8.toNat_inj.mp (hgone.trans hwcid.symm)
                exact Or.inr (heq ▸ hlost)
            simp only [Step.stimulus, hstimulus, Stimulus.about, Step.concerns, hsame]

/-! ## Runs -/

section

variable (world : World) {mac : Mac} {wcid : UInt8} {i : Fin maxPeers} {s : Fin maxSlots}

theorem step_holds {daemon : Daemon} (hholds : daemon.link.Holds mac i s) (step : Step) :
    (daemon.step world step).link.Holds mac i s := by
  rw [step_link world hholds.wf step]
  exact hholds.step _

/-- What belongs to a controller runs on the transfers that concern it. -/
theorem run_own {daemon : Daemon} (hholds : daemon.link.Holds mac i s)
    (hwcid : wcid.toNat = s.val + 1) (steps : List Step) :
    (run (Daemon.step world) daemon steps).link.own i s =
      run (fun own step => own.step s (step.stimulus world.env daemon.air.ourMac))
        (daemon.link.own i s) (steps.filter (Step.concerns mac wcid)) := by
  refine Machine.run_project (fun state : Daemon => state.link.own i s)
    (Step.concerns mac wcid)
    (fun state => state.link.Holds mac i s ∧ state.air.ourMac = daemon.air.ourMac)
    ?_ ?_ ?_ ⟨hholds, rfl⟩ steps
  · intro state step hinv
    obtain ⟨hholds, hmac⟩ := hinv
    exact ⟨step_holds world hholds step, (step_ourMac world hholds.wf step).trans hmac⟩
  · intro state step hinv hconcerns
    obtain ⟨hholds, hmac⟩ := hinv
    rw [step_link world hholds.wf step, hmac]
    rcases step.concerns_iff hwcid world.env daemon.air.ourMac with hquiet | habout
    · rw [hquiet]
      rfl
    · rw [hholds.step_about (habout.trans hconcerns), Link.own_put]
  · intro state step hinv hconcerns
    obtain ⟨hholds, hmac⟩ := hinv
    rw [step_link world hholds.wf step, hmac]
    rcases step.concerns_iff hwcid world.env daemon.air.ourMac with hquiet | habout
    · rw [hquiet]
      rfl
    · exact hholds.step_other (habout.trans hconcerns)

theorem step_step_comm {daemon : Daemon} (hholds : daemon.link.Holds mac i s)
    (hwcid : wcid.toNat = s.val + 1) {step other : Step} (hstep : step.concerns mac wcid = true)
    (hother : other.concerns mac wcid = false) :
    ((daemon.step world step).step world other).link =
      ((daemon.step world other).step world step).link := by
  rw [step_link world (step_wf world hholds.wf step), step_link world hholds.wf,
    step_link world (step_wf world hholds.wf other), step_link world hholds.wf,
    step_ourMac world hholds.wf, step_ourMac world hholds.wf]
  rcases step.concerns_iff hwcid world.env daemon.air.ourMac with hquiet | habout
  · rw [hquiet]
    rfl
  · rcases other.concerns_iff hwcid world.env daemon.air.ourMac with hquiet | hnot
    · rw [hquiet]
      rfl
    · exact hholds.step_comm (habout.trans hstep) (hnot.trans hother)

/-- Controllers do not interfere. From every reachable state, the entry of a registered peer with
WCID at most 8 and its slot end up as if only the transfers that concern it had been received,
whatever else the run contains; and a transfer that concerns it commutes with one that does
not, as far as peers and slots go. -/
theorem controllers_do_not_interfere {daemon : Daemon} (hreach : Reachable world daemon)
    (hfound : daemon.table.findPeerByMac mac = some i)
    (hwcid : (daemon.table.peers i).wcid.toNat = s.val + 1) :
    i.val = (daemon.table.peers i).wcid.toNat ∧
      (∀ steps,
        (run (Daemon.step world) daemon steps).table.peers i =
          (run (Daemon.step world) daemon
            (steps.filter (Step.concerns mac (daemon.table.peers i).wcid))).table.peers i ∧
        (run (Daemon.step world) daemon steps).pads.view s =
          (run (Daemon.step world) daemon
            (steps.filter (Step.concerns mac (daemon.table.peers i).wcid))).pads.view s) ∧
      ∀ step other, step.concerns mac (daemon.table.peers i).wcid = true →
        other.concerns mac (daemon.table.peers i).wcid = false →
        ((daemon.step world step).step world other).link =
          ((daemon.step world other).step world step).link := by
  have hwf := reachable_wf world hreach
  have hactive := (PeerTable.findPeerByMac_some hfound).1
  have hlt : i.val < 128 := i.isLt
  have hindex : i.val = (daemon.table.peers i).wcid.toNat := by
    rw [hwf.wcid i hactive, UInt8.toNat_ofNat']
    omega
  have hpad : padOf? i = some s := by
    have hs : s.val < 8 := s.isLt
    rw [padOf?, dif_pos ⟨by omega, by omega⟩]
    exact congrArg some (Fin.ext (by simp only; omega))
  have hholds : daemon.link.Holds mac i s := ⟨hwf, hfound, hpad⟩
  refine ⟨hindex, fun steps => ?_, fun step other hstep hother =>
    step_step_comm world hholds hwcid hstep hother⟩
  -- cutting a run that is already cut changes nothing
  have hrun := run_own world hholds hwcid steps
  have hcut := run_own world hholds hwcid
    (steps.filter (Step.concerns mac (daemon.table.peers i).wcid))
  rw [List.filter_filter, funext fun step => Bool.and_self _, ← hrun] at hcut
  exact ⟨(congrArg Own.peer hcut).symm, (congrArg Own.pad hcut).symm⟩

end

/-- One controller has connected. -/
def oneController : Daemon :=
  (plainBoot.step (romWorld plainRom)) addedStep

theorem controllers_do_not_interfere_one :
    (1 : Fin maxPeers).val = (oneController.table.peers 1).wcid.toNat ∧
      (∀ steps,
        (run (Daemon.step (romWorld plainRom)) oneController steps).table.peers 1 =
          (run (Daemon.step (romWorld plainRom)) oneController
            (steps.filter (Step.concerns padMac (oneController.table.peers 1).wcid))).table.peers
              1 ∧
        (run (Daemon.step (romWorld plainRom)) oneController steps).pads.view 0 =
          (run (Daemon.step (romWorld plainRom)) oneController
            (steps.filter (Step.concerns padMac (oneController.table.peers 1).wcid))).pads.view
              0) ∧
      ∀ step other, step.concerns padMac (oneController.table.peers 1).wcid = true →
        other.concerns padMac (oneController.table.peers 1).wcid = false →
        ((oneController.step (romWorld plainRom) step).step (romWorld plainRom) other).link =
          ((oneController.step (romWorld plainRom) other).step (romWorld plainRom) step).link :=
  controllers_do_not_interfere (romWorld plainRom)
    ⟨plainBoot, [addedStep], plainBoot_boots, rfl⟩
    (by decide +kernel) (by decide +kernel)

end XoneDarwin
