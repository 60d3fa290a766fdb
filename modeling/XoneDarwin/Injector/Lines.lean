import XoneDarwin.Bridge.Mirror

/-!
# Two readers of one event

`ryujinx_sdl_inject.c` reads the daemon's events with parsers of its own. Whatever
the daemon says of a slot, both it and the HID bridge find in the datagram again:
one line, of one type, with the numbers that were printed into it.
-/

namespace XoneDarwin

open CString

/-! ## The injector's parsers -/

namespace Injector

/-- `json_has_type` of the injector. -/
def jsonHasType (json : List Char) (type : String) : Bool :=
  (strstr (typeNeedle type) json).isSome

/-- `json_get_int` of the injector. -/
def jsonGetInt (json : List Char) (key : String) : Option Int :=
  (jsonValue json key).bind fun p => (strtol p).map fun v => toInt v.1

/-- The lines `udp_thread` hands on of a datagram: it splits it as the bridge does. -/
def lines (datagram : List Char) : List (List Char) :=
  Bridge.lines datagram

/-- The types `handle_line` tests for, in its order. -/
def typeTests : List String := ["connected", "disconnected", "input"]

end Injector

namespace Bridge

/-- The types `handle_event_line` tests for, in its order. -/
def typeTests : List String := ["connected", "disconnected", "guide", "input", "hid_unavailable"]

end Bridge

/-! ## What an event says -/

def PadEvent.typeName : PadEvent → String
  | .connect => "connected"
  | .disconnect => "disconnected"
  | .input _ => "input"
  | .guide _ => "guide"

/-- The numbers in the text of an event. -/
def PadEvent.fields (s : Fin maxSlots) : PadEvent → List (String × Int)
  | .input g => inputFields s g
  | _ => [("slot", s.val)]

/-- Both consumers read of an event what the daemon wrote. -/
structure Survives (s : Fin maxSlots) (event : PadEvent) : Prop where
  sent : ∀ pads, (eventUdpSend true (event.text s) pads).datagrams =
    ⟨event.text s ++ ['\n'], pads.slots⟩ :: pads.datagrams
  bridgeLines : Bridge.lines (event.text s ++ ['\n']) = [event.text s]
  injectorLines : Injector.lines (event.text s ++ ['\n']) = [event.text s]
  bridgeType : ∀ type ∈ Bridge.typeTests,
    jsonHasType (event.text s) type = true ↔ type = event.typeName
  injectorType : ∀ type ∈ Injector.typeTests,
    Injector.jsonHasType (event.text s) type = true ↔ type = event.typeName
  bridgeInts : ∀ field ∈ event.fields s, jsonGetInt (event.text s) field.1 = some field.2
  injectorInts : ∀ field ∈ event.fields s,
    Injector.jsonGetInt (event.text s) field.1 = some field.2
  pressed : ∀ pressed, event = .guide pressed →
    jsonGetBool (event.text s) "pressed" = some pressed
  report : ∀ g guide, event = .input g →
    gipToHid (Bridge.parsedInput (event.text s)) guide = gipToHid g guide

/-! ## Lines -/

/-- A sendable text goes out whole. -/
theorem eventUdpSend_sendable {message : List Char} (hmessage : Sendable message) (pads : Pads) :
    (eventUdpSend true message pads).datagrams =
      ⟨message ++ ['\n'], pads.slots⟩ :: pads.datagrams := by
  have hsend : eventUdpSend true message pads = _ := if_pos ⟨rfl, hmessage.2.1⟩
  rw [hsend, List.take_of_length_le hmessage.2.2]

/-! ## Types -/

theorem PadEvent.text_type (s : Fin maxSlots) (event : PadEvent) :
    ∀ type ∈ Bridge.typeTests, jsonHasType (event.text s) type = true ↔ type = event.typeName := by
  cases event with
  | connect =>
      revert s
      decide
  | disconnect =>
      revert s
      decide
  | guide pressed =>
      revert s pressed
      decide
  | input g =>
      obtain ⟨htype, hothers⟩ := inputEvent_types s g
      intro type hmem
      by_cases hinput : type = "input"
      · rw [hinput]
        exact iff_of_true htype rfl
      · have hother : type ∈ ["connected", "disconnected", "guide", "hid_unavailable"] := by
          revert type
          decide
        exact iff_of_false (Bool.eq_false_iff.mp (hothers type hother)) hinput

theorem typeTests_subset : Injector.typeTests ⊆ Bridge.typeTests := by
  decide

/-! ## Numbers -/

theorem PadEvent.text_ints (s : Fin maxSlots) (event : PadEvent) :
    ∀ field ∈ event.fields s, jsonGetInt (event.text s) field.1 = some field.2 := by
  cases event with
  | connect =>
      revert s
      decide
  | disconnect =>
      revert s
      decide
  | guide pressed =>
      revert s pressed
      decide
  | input g =>
      intro field hfield
      have hget := inputEvent_getInt s g (mem_inputKeys s g hfield)
      refine hget.trans ?_
      -- the keys are distinct, so each field is the first of its name
      simp only [PadEvent.fields, inputFields, List.mem_cons, List.not_mem_nil, or_false] at hfield
      rcases hfield with rfl | rfl | rfl | rfl | rfl | rfl | rfl | rfl <;> rfl

/-- For every slot, every input and every other event: the datagram is the whole text, it is one
line of exactly its own type for both consumers, and they read the numbers, the guide flag and the
HID report the daemon had. -/
theorem event_survives (s : Fin maxSlots) (event : PadEvent) : Survives s event where
  sent := eventUdpSend_sendable (event.text_sendable s)
  bridgeLines := lines_sent (event.text_sendable s)
  injectorLines := lines_sent (event.text_sendable s)
  bridgeType := event.text_type s
  injectorType := fun type htype => event.text_type s type (typeTests_subset htype)
  bridgeInts := event.text_ints s
  injectorInts := event.text_ints s
  pressed := by
    rintro pressed rfl
    exact (guideEvent_read s pressed).2.2.2.2
  report := by
    rintro g guide rfl
    exact congrArg (fun input => gipToHid input guide) (parsedInput_inputEvent s g)

end XoneDarwin
