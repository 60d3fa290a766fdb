import XoneDarwin.Injector.Triggers

/-!
# Slot numbers of any size

Both readers of the daemon's events take the slot number of a line through `strtol`
and a cast to `int`, and check its range behind that. What is written in the text
may be another number than the one that is checked.
-/

namespace CString

/-- The number at the front of a text, of whatever size. -/
def writtenNumber (s : List Char) : Option Int :=
  let t := s.dropWhile isSpace
  let u := if t.head? = some '-' ∨ t.head? = some '+' then t.tail else t
  let digits := u.takeWhile Char.isDigit
  let magnitude : Int := Nat.ofDigitChars 10 digits 0
  if digits.isEmpty then none
  else some (if t.head? = some '-' then -magnitude else magnitude)

/-- `strtol` reads it as far as a `long` goes. -/
theorem strtol_written (s : List Char) :
    (strtol s).map Prod.fst = (writtenNumber s).map clampLong := by
  simp only [strtol, writtenNumber, apply_ite (Option.map _), Option.map_none, Option.map_some]

theorem clampLong_cases (n : Int) :
    n ≤ -0x8000000000000000 ∧ clampLong n = -0x8000000000000000 ∨
      -0x8000000000000000 < n ∧ n ≤ 0x7fffffffffffffff ∧ clampLong n = n ∨
      0x7fffffffffffffff < n ∧ clampLong n = 0x7fffffffffffffff := by
  unfold clampLong
  omega

end CString

namespace XoneDarwin

open CString Machine

/-! ## What passes for a slot -/

/-- The slot number in the text of a line. -/
def writtenSlot (line : List Char) : Option Int :=
  (jsonValue line "slot").bind writtenNumber

/-- The integers that are slots once they are a `long` and then an `int`. -/
def PassesForSlot (n : Int) : Prop :=
  n ≤ -0x8000000000000000 ∨ n ≤ 0x7fffffffffffffff ∧ n % 0x100000000 < maxSlots

theorem jsonGetInt_slot {line : List Char} {n : Int} (hwritten : writtenSlot line = some n) :
    jsonGetInt line "slot" = some (toInt (clampLong n)) := by
  obtain ⟨p, hp, hn⟩ := Option.bind_eq_some_iff.mp hwritten
  have hread := strtol_written p
  rw [hn, Option.map_some, Option.map_eq_some_iff] at hread
  obtain ⟨v, hv, hclamped⟩ := hread
  rw [jsonGetInt, hp, Option.bind_some, hv, Option.map_some, hclamped]

theorem passesForSlot_iff (n : Int) :
    PassesForSlot n ↔ ∃ i, bridgeSlot? (toInt (clampLong n)) = some i := by
  have hnarrowed : PassesForSlot n ↔
      0 ≤ toInt (clampLong n) ∧ toInt (clampLong n) < maxSlots := by
    have height : ((maxSlots : Nat) : Int) = 8 := rfl
    rw [PassesForSlot, height]
    rcases clampLong_cases n with ⟨hn, hv⟩ | ⟨hlow, hhigh, hv⟩ | ⟨hn, hv⟩
    · rw [hv]
      exact iff_of_true (Or.inl hn) (by decide)
    · rw [hv]
      unfold toInt Int.bmod
      dsimp only
      split <;> omega
    · rw [hv]
      exact iff_of_false (by omega) (by decide)
  rw [hnarrowed, bridgeSlot?]
  split
  next hrange => exact iff_of_true hrange ⟨_, rfl⟩
  next hrange => exact iff_of_false hrange fun ⟨_, hslot⟩ => Option.some_ne_none _ hslot.symm

/-! ## Lines that mean something -/

/-- An event of a slot in range that `handle_line` acts on. -/
def Injector.HasEvent (line : List Char) : Prop :=
  Injector.jsonHasType line "connected" = true ∨ Injector.jsonHasType line "disconnected" = true ∨
    Injector.jsonHasType line "input" = true ∧ (Injector.jsonGetInt line "buttons").isSome = true

/-- An event of a slot in range that `handle_event_line` acts on. -/
def Bridge.HasEvent (line : List Char) : Prop :=
  jsonHasType line "connected" = true ∨ jsonHasType line "disconnected" = true ∨
    if jsonHasType line "guide" = true then (jsonGetBool line "pressed").isSome = true
    else jsonHasType line "input" = true

/-- The injector does nothing with a line, in whatever state it gets it. -/
def Injector.Ignores (line : List Char) : Prop :=
  ∀ settings others events host,
    let injector := run Injector.step (Injector.start settings others) events
    (injector.handleLine host line).slots = injector.slots ∧
      (injector.handleLine host line).sdl = injector.sdl ∧
      (injector.handleLine host line).calls = injector.calls

/-- The bridge does nothing with a line, in whatever state it gets it. -/
def Bridge.Ignores (line : List Char) : Prop :=
  ∀ host boot lines, Bridge.start host = some boot →
    let bridge := run (Bridge.handleEventLine host) boot lines
    (bridge.handleEventLine host line).slots = bridge.slots ∧
      (bridge.handleEventLine host line).hid = bridge.hid

/-! ## The injector -/

namespace Injector

section

variable {line : List Char} {n : Int} (hwritten : writtenSlot line = some n)

include hwritten in
theorem handleLine_outside (hpasses : ¬PassesForSlot n) (host : SdlHost) (injector : Injector) :
    injector.handleLine host line = injector := by
  have hget : Injector.jsonGetInt line "slot" = some (toInt (clampLong n)) :=
    jsonGetInt_slot hwritten
  have hslot : bridgeSlot? (toInt (clampLong n)) = none :=
    Option.eq_none_iff_forall_ne_some.mpr fun i hi => hpasses ((passesForSlot_iff n).mpr ⟨i, hi⟩)
  unfold handleLine
  split
  · simp only [hget, onConnected, hslot]
  split
  · simp only [hget, onDisconnected, hslot]
  split
  · rw [onInput, hget, Option.bind_some, hslot]
  · rfl

theorem handleLine_noEvent (hnone : ¬HasEvent line) (host : SdlHost) (injector : Injector) :
    injector.handleLine host line = injector := by
  simp only [HasEvent, not_or, not_and] at hnone
  obtain ⟨hconnected, hdisconnected, hinput⟩ := hnone
  rw [handleLine, if_neg hconnected, if_neg hdisconnected]
  split
  next htype =>
    have hbuttons : Injector.jsonGetInt line "buttons" = none :=
      Option.not_isSome_iff_eq_none.mp (hinput htype)
    rw [onInput, hbuttons]
    cases (Injector.jsonGetInt line "slot").bind bridgeSlot? <;> rfl
  next => rfl

/-- Where SDL has everything, a connected slot is in use. -/
theorem start_connects (i : Fin maxSlots) :
    (((start {} 0).onConnected (.working true) i).slots i).active = true := by
  rw [onConnected_ensured _ (ensureSdlReady_working _ true)]
  exact ensured_active _ (start_sound {} 0).desk.fresh i (ensureSdlReady_working _ true) rfl rfl

/-- The injector after its first connected event. -/
theorem run_connectedEvent (i : Fin maxSlots) :
    run step (start {} 0) [⟨.working true, connectedEvent (UInt8.ofNat i)⟩] =
      (start {} 0).onConnected (.working true) i := by
  obtain ⟨htype, hslot⟩ := connectedEvent_read i
  have hget : Injector.jsonGetInt (connectedEvent (UInt8.ofNat i)) "slot" = some (i.val : Int) :=
    hslot
  rw [run_cons, run_nil, step, handleLine, if_pos]
  · dsimp only
    rw [hget]
  · exact htype

/-- For a slot that exists, the line of an event shows in the slots of some state. -/
theorem not_ignores {line : List Char} {v : Int} {i : Fin maxSlots}
    (hget : Injector.jsonGetInt line "slot" = some v) (hi : bridgeSlot? v = some i)
    (hevent : HasEvent line) : ¬Ignores line := by
  intro hignores
  have hactive := start_connects i
  by_cases hconnected : Injector.jsonHasType line "connected" = true
  · have hsame := congrFun (hignores {} 0 [] (.working true)).1 i
    rw [run_nil, handleLine, if_pos hconnected, hget] at hsame
    dsimp only at hsame
    rw [onConnected_slot _ hi] at hsame
    rw [hsame] at hactive
    cases hactive
  by_cases hdisconnected : Injector.jsonHasType line "disconnected" = true
  · have hsame := congrFun (hignores {} 0 [⟨.working true, connectedEvent (UInt8.ofNat i)⟩]
      (.working true)).1 i
    rw [run_connectedEvent i, handleLine, if_neg hconnected, if_pos hdisconnected, hget] at hsame
    dsimp only at hsame
    rw [onDisconnected_slot hi, if_pos ⟨rfl, hactive⟩] at hsame
    rw [← hsame] at hactive
    cases hactive
  · obtain ⟨hinput, hbuttons⟩ := (hevent.resolve_left hconnected).resolve_left hdisconnected
    obtain ⟨buttons, hbuttons⟩ := Option.isSome_iff_exists.mp hbuttons
    have hsame := congrFun (hignores {} 0 [] (.working true)).1 i
    have hslot : (Injector.jsonGetInt line "slot").bind bridgeSlot? = some i := by
      rw [hget, Option.bind_some, hi]
    have hensured := ensureSdlReady_working (start {} 0) true
    rw [onConnected_ensured _ hensured] at hactive
    rw [run_nil, handleLine, if_neg hconnected, if_neg hdisconnected, if_pos hinput,
      onInput_eq _ hslot hbuttons, if_pos hensured, applyInput_slot, if_pos ⟨rfl, hactive⟩] at hsame
    rw [← withNumbers_active _ (inputNumbers buttons line), hsame] at hactive
    cases hactive

theorem ignores_of_same
    (hsame : ∀ host (injector : Injector), injector.handleLine host line = injector) :
    Ignores line := by
  intro settings others events host
  dsimp only
  rw [hsame]
  exact ⟨rfl, rfl, rfl⟩

end

end Injector

/-! ## The bridge -/

namespace Bridge

section

variable {line : List Char} {n : Int} (hwritten : writtenSlot line = some n)

include hwritten in
theorem handleEventLine_outside (hpasses : ¬PassesForSlot n) (host : Host) (bridge : Bridge) :
    bridge.handleEventLine host line = bridge := by
  have hget := jsonGetInt_slot hwritten
  have hslot : bridgeSlot? (toInt (clampLong n)) = none :=
    Option.eq_none_iff_forall_ne_some.mpr fun i hi => hpasses ((passesForSlot_iff n).mpr ⟨i, hi⟩)
  unfold handleEventLine
  split
  · simp only [hget, handleConnected, hslot]
  split
  · simp only [hget, handleDisconnected, hslot]
  split
  · rw [hget]
    cases jsonGetBool line "pressed" with
    | none => rfl
    | some pressed => simp only [handleGuide, hslot]
  split
  · rw [handleInput, hget, Option.bind_some, hslot]
  · rfl

theorem handleEventLine_noEvent (hnone : ¬HasEvent line) (host : Host) (bridge : Bridge) :
    bridge.handleEventLine host line = bridge := by
  simp only [HasEvent, not_or] at hnone
  obtain ⟨hconnected, hdisconnected, hother⟩ := hnone
  rw [handleEventLine, if_neg hconnected, if_neg hdisconnected]
  split
  next hguide =>
    rw [if_pos hguide, Option.not_isSome_iff_eq_none] at hother
    rw [hother]
    cases jsonGetInt line "slot" <;> rfl
  next hguide =>
    rw [if_neg hguide] at hother
    exact if_neg hother

/-- Where every device can be created, a connected slot has one. -/
theorem userBridge_connects (i : Fin maxSlots) :
    ((userBridge.handleConnected userHost i).slots i).active = true ∧
      ((userBridge.handleConnected userHost i).slots i).hidDevice = true := by
  revert i
  decide +kernel

/-- The bridge after its first connected event. -/
theorem run_connectedEvent (i : Fin maxSlots) :
    run (handleEventLine userHost) userBridge [connectedEvent (UInt8.ofNat i)] =
      userBridge.handleConnected userHost i := by
  obtain ⟨htype, hslot⟩ := connectedEvent_read i
  rw [run_cons, run_nil, handleEventLine, if_pos htype, hslot]

theorem setSlot_self (i : Fin maxSlots) (slot : BridgeSlot) (bridge : Bridge) :
    (bridge.setSlot i slot).slots i = slot :=
  Function.update_self ..

/-- A device that is there gets a report. -/
theorem postHidReport_ne {bridge : Bridge} {i : Fin maxSlots} {slot : BridgeSlot}
    (hdevice : slot.hidDevice = true) :
    ((bridge.setSlot i slot).postHidReport i).hid ≠ bridge.hid := by
  rw [postHidReport, setSlot_self, if_pos hdevice]
  exact List.cons_ne_self _ _

/-- For a slot that exists, the line of an event shows in some state. -/
theorem not_ignores {line : List Char} {v : Int} {i : Fin maxSlots}
    (hget : jsonGetInt line "slot" = some v) (hi : bridgeSlot? v = some i)
    (hevent : HasEvent line) : ¬Ignores line := by
  intro hignores
  obtain ⟨hactive, hdevice⟩ := userBridge_connects i
  by_cases hconnected : jsonHasType line "connected" = true
  · have hsame := congrFun (hignores userHost userBridge [] rfl).1 i
    have hslot : userBridge.handleConnected userHost v = userBridge.handleConnected userHost i := by
      rw [handleConnected, handleConnected, hi, bridgeSlot?_val]
    rw [run_nil, handleEventLine, if_pos hconnected, hget] at hsame
    dsimp only at hsame
    rw [hslot] at hsame
    rw [hsame] at hactive
    cases hactive
  obtain ⟨hslots, hhid⟩ := hignores userHost userBridge [connectedEvent (UInt8.ofNat i)] rfl
  rw [run_connectedEvent, handleEventLine, if_neg hconnected] at hslots hhid
  generalize userBridge.handleConnected userHost i = bridge at hactive hdevice hslots hhid
  by_cases hdisconnected : jsonHasType line "disconnected" = true
  · have hsame := congrFun hslots i
    rw [if_pos hdisconnected, hget] at hsame
    simp only [handleDisconnected, hi, if_pos hactive] at hsame
    rw [← hsame, setSlot_self] at hactive
    cases hactive
  have hother := (hevent.resolve_left hconnected).resolve_left hdisconnected
  rw [if_neg hdisconnected] at hhid
  by_cases hguide : jsonHasType line "guide" = true
  · rw [if_pos hguide] at hother hhid
    obtain ⟨pressed, hpressed⟩ := Option.isSome_iff_exists.mp hother
    rw [hget, hpressed] at hhid
    simp only [handleGuide, hi, if_pos hactive] at hhid
    exact absurd hhid (postHidReport_ne hdevice)
  · rw [if_neg hguide] at hother hhid
    have hslot : (jsonGetInt line "slot").bind bridgeSlot? = some i := by
      rw [hget, Option.bind_some, hi]
    rw [if_pos hother, handleInput, hslot] at hhid
    simp only [if_pos hactive] at hhid
    exact absurd hhid (postHidReport_ne hdevice)

theorem ignores_of_same
    (hsame : ∀ host (bridge : Bridge), bridge.handleEventLine host line = bridge) :
    Ignores line := by
  intro host boot lines _
  dsimp only
  rw [hsame]
  exact ⟨rfl, rfl⟩

end

end Bridge

/-! ## Both readers -/

/-- Whatever number is written for the slot, inside or outside of 0..7: the line goes unnoticed in
every state of both readers just if the number does not pass for a slot once it is narrowed, or the
line has no event that one of them acts on. -/
theorem line_ignored_iff {line : List Char} {n : Int} (hwritten : writtenSlot line = some n) :
    Injector.Ignores line ∧ Bridge.Ignores line ↔
      ¬PassesForSlot n ∨ ¬Injector.HasEvent line ∧ ¬Bridge.HasEvent line := by
  constructor
  · rintro ⟨hinjector, hbridge⟩
    by_cases hpasses : PassesForSlot n
    · obtain ⟨i, hi⟩ := (passesForSlot_iff n).mp hpasses
      have hget := jsonGetInt_slot hwritten
      exact Or.inr ⟨fun hevent => Injector.not_ignores hget hi hevent hinjector,
        fun hevent => Bridge.not_ignores hget hi hevent hbridge⟩
    · exact Or.inl hpasses
  · rintro (hpasses | ⟨hinjector, hbridge⟩)
    · exact ⟨Injector.ignores_of_same (Injector.handleLine_outside hwritten hpasses),
        Bridge.ignores_of_same (Bridge.handleEventLine_outside hwritten hpasses)⟩
    · exact ⟨Injector.ignores_of_same (Injector.handleLine_noEvent hinjector),
        Bridge.ignores_of_same (Bridge.handleEventLine_noEvent hbridge)⟩

/-- A controller for the first number that does not fit 32 bits. -/
def strayLine : List Char := "\x7b\"type\":\"connected\",\"slot\":4294967296\x7d".toList

theorem line_ignored_iff_stray :
    Injector.Ignores strayLine ∧ Bridge.Ignores strayLine ↔
      ¬PassesForSlot 4294967296 ∨ ¬Injector.HasEvent strayLine ∧ ¬Bridge.HasEvent strayLine :=
  line_ignored_iff (by decide +kernel)

/-- It is slot 0 for both of them. -/
theorem strayLine_noticed :
    writtenSlot strayLine = some 4294967296 ∧ ¬Injector.Ignores strayLine ∧
      ¬Bridge.Ignores strayLine := by
  have hwritten : writtenSlot strayLine = some 4294967296 := by decide +kernel
  have hget := jsonGetInt_slot hwritten
  have hslot : bridgeSlot? (toInt (clampLong 4294967296)) = some 0 := by decide
  exact ⟨hwritten, Injector.not_ignores hget hslot (Or.inl (by decide)),
    Bridge.not_ignores hget hslot (Or.inl (by decide))⟩

end XoneDarwin
