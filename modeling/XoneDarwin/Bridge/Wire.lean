import Mathlib.Data.List.TakeWhile
import XoneDarwin.Bridge.HidBridge

/-!
# Events on the wire

The bridge reads back from the text of an event what the daemon printed into it.
Connect, disconnect and guide events are finitely many; an input event is a record
of numbers, in which every key is found at its own field.
-/

namespace XoneDarwin

open CString

/-! ## Records of numbers -/

/-- The fields of an event and the brace that closes it. -/
def recordText : List (String × Int) → List Char
  | [] => "\x7d".toList
  | (key, z) :: fields => ',' :: (keyNeedle key ++ (printInt z ++ recordText fields))

theorem endsNumber_recordText (fields : List (String × Int)) : EndsNumber (recordText fields) := by
  cases fields with
  | nil => exact endsNumber_cons (by decide)
  | cons field fields => exact endsNumber_cons (by decide)

theorem keyNeedle_quote (key : String) : ∃ more, keyNeedle key = '"' :: more := by
  have hquote : "\"".toList = ['"'] := by decide
  refine ⟨(key.toList ++ "\":".toList).take 62, ?_⟩
  rw [keyNeedle, hquote]
  rfl

theorem typeNeedle_quote (type : String) : ∃ more, typeNeedle type = '"' :: more := by
  have hquote : "\"type\":\"".toList = '"' :: "type\":\"".toList := by decide
  refine ⟨("type\":\"".toList ++ (type.toList ++ "\"".toList)).take 62, ?_⟩
  rw [typeNeedle, hquote]
  rfl

section

variable {more : List Char} {fields : List (String × Int)}

/-- Numbers contain no quotes. -/
theorem strstr_printInt (z : Int) (rest : List Char) :
    strstr ('"' :: more) (printInt z ++ rest) = strstr ('"' :: more) rest := by
  refine strstr_skip (printInt z) (fun c hc => ?_) rest
  rcases printInt_chars hc with hdigit | rfl
  · rintro rfl
    exact absurd hdigit (by decide)
  · decide

/-- A needle that is clear of a field's key is not found in the field. -/
theorem strstr_field {key : String} (hclear : clear ('"' :: more) (',' :: keyNeedle key) = true)
    (z : Int) : strstr ('"' :: more) (recordText ((key, z) :: fields)) =
      strstr ('"' :: more) (recordText fields) := by
  have hskip := strstr_clear hclear (printInt z ++ recordText fields)
  rw [strstr_printInt] at hskip
  exact hskip

theorem strstr_record_none
    (hclear : ∀ field ∈ fields, clear ('"' :: more) (',' :: keyNeedle field.1) = true) :
    strstr ('"' :: more) (recordText fields) = none := by
  induction fields with
  | nil => rfl
  | cons field fields ih =>
      rw [strstr_field (hclear field List.mem_cons_self)]
      exact ih fun field hfield => hclear field (List.mem_cons_of_mem _ hfield)

/-- The text in front of the first field. -/
theorem strstr_head {head : List Char} {field : String × Int}
    (hclear : clear ('"' :: more) (head ++ [',']) = true) :
    strstr ('"' :: more) (head ++ recordText (field :: fields)) =
      strstr ('"' :: more) (recordText (field :: fields)) := by
  have hskip := strstr_clear hclear
    (keyNeedle field.1 ++ (printInt field.2 ++ recordText fields))
  rw [List.append_assoc] at hskip
  rw [recordText, strstr_skip_one (by decide)]
  exact hskip

end

theorem isBlank_number (c : Char) (hc : c.isDigit = true ∨ c = '-') : isBlank c = false := by
  rcases hc with hdigit | rfl
  · have hspace := isDigit_not_space hdigit
    simp only [isSpace, Bool.or_eq_false_iff] at hspace
    simp only [isBlank, hspace, Bool.or_self]
  · rfl

/-- A key is found at its own field. -/
theorem jsonGetInt_record {fields : List (String × Int)} {key : String}
    (hclear : ∀ field ∈ fields, field.1 ≠ key →
      clear (keyNeedle key) (',' :: keyNeedle field.1) = true)
    (hrange : ∀ field ∈ fields, -0x80000000 ≤ field.2 ∧ field.2 < 0x80000000) :
    jsonGetInt (recordText fields) key = fields.lookup key := by
  obtain ⟨more, hneedle⟩ := keyNeedle_quote key
  induction fields with
  | nil =>
      simp only [jsonGetInt, jsonValue, hneedle]
      rfl
  | cons field fields ih =>
      obtain ⟨name, z⟩ := field
      by_cases hname : name = key
      · subst hname
        obtain ⟨hlow, hhigh⟩ := hrange (name, z) List.mem_cons_self
        have hfound : strstr (keyNeedle name) (recordText ((name, z) :: fields)) =
            some (keyNeedle name ++ (printInt z ++ recordText fields)) := by
          rw [recordText, hneedle, strstr_skip_one (by decide), ← hneedle, strstr_found]
        have hblank : (printInt z ++ recordText fields).dropWhile
            isBlank = printInt z ++ recordText fields :=
          dropWhile_printInt isBlank_number z _
        simp only [jsonGetInt, jsonValue, hfound, Option.map_some, List.drop_left, hblank,
          Option.bind_some, List.lookup_cons_self]
        rw [strtol_printInt (by omega) (by omega) (endsNumber_recordText fields), Option.map_some,
          toInt_of_range hlow hhigh]
      · have hskip := hclear (name, z) List.mem_cons_self hname
        have hlookup : ((name, z) :: fields).lookup key = fields.lookup key :=
          by rw [List.lookup_cons, beq_false_of_ne (Ne.symm hname)]
        rw [hlookup, ← ih (fun field hfield => hclear field (List.mem_cons_of_mem _ hfield))
          (fun field hfield => hrange field (List.mem_cons_of_mem _ hfield))]
        simp only [jsonGetInt, jsonValue, hneedle] at hskip ⊢
        rw [strstr_field hskip]

/-! ## Events with a fixed text -/

/-- Characters that end neither the string nor the line. -/
def Plain (text : List Char) : Prop :=
  ∀ c ∈ text, c ≠ '\x00' ∧ Bridge.lineEnd c = false

instance (text : List Char) : Decidable (Plain text) :=
  List.decidableBAll (fun c => c ≠ '\x00' ∧ Bridge.lineEnd c = false) text

/-- A line that fits the text buffer of the daemon. -/
def Sendable (text : List Char) : Prop :=
  Plain text ∧ text ≠ [] ∧ text.length ≤ 318

instance (text : List Char) : Decidable (Sendable text) :=
  inferInstanceAs (Decidable (_ ∧ _))

theorem connectedEvent_sendable (s : Fin maxSlots) : Sendable (connectedEvent (UInt8.ofNat s)) := by
  revert s
  decide

theorem connectedEvent_read (s : Fin maxSlots) :
    jsonHasType (connectedEvent (UInt8.ofNat s)) "connected" = true ∧
      jsonGetInt (connectedEvent (UInt8.ofNat s)) "slot" = some (s.val : Int) := by
  revert s
  decide

theorem disconnectedEvent_sendable (s : Fin maxSlots) :
    Sendable (disconnectedEvent (UInt8.ofNat s)) := by
  revert s
  decide

theorem disconnectedEvent_read (s : Fin maxSlots) :
    jsonHasType (disconnectedEvent (UInt8.ofNat s)) "connected" = false ∧
      jsonHasType (disconnectedEvent (UInt8.ofNat s)) "disconnected" = true ∧
      jsonGetInt (disconnectedEvent (UInt8.ofNat s)) "slot" = some (s.val : Int) := by
  revert s
  decide

theorem guideEvent_sendable (s : Fin maxSlots) (pressed : Bool) :
    Sendable (guideEvent (UInt8.ofNat s) pressed) := by
  revert s pressed
  decide

theorem guideEvent_read (s : Fin maxSlots) (pressed : Bool) :
    jsonHasType (guideEvent (UInt8.ofNat s) pressed) "connected" = false ∧
      jsonHasType (guideEvent (UInt8.ofNat s) pressed) "disconnected" = false ∧
      jsonHasType (guideEvent (UInt8.ofNat s) pressed) "guide" = true ∧
      jsonGetInt (guideEvent (UInt8.ofNat s) pressed) "slot" = some (s.val : Int) ∧
      jsonGetBool (guideEvent (UInt8.ofNat s) pressed) "pressed" = some pressed := by
  revert s pressed
  decide

theorem hidUnavailableEvent_sendable : Sendable hidUnavailableEvent := by
  decide

theorem hidUnavailableEvent_read : ∀ type ∈ ["connected", "disconnected", "guide", "input"],
    jsonHasType hidUnavailableEvent type = false := by
  decide

/-! ## Input events -/

section

variable (s : Fin maxSlots) (g : GipInput)

/-- The text in front of the first field. -/
def inputHead : List Char := "\x7b\"type\":\"input\"".toList

def inputFields : List (String × Int) :=
  [("slot", s.val), ("buttons", g.buttons.toNat), ("lt", g.triggerL.toNat),
    ("rt", g.triggerR.toNat), ("lx", g.stickLx.toInt), ("ly", g.stickLy.toInt),
    ("rx", g.stickRx.toInt), ("ry", g.stickRy.toInt)]

def inputKeys : List String := ["slot", "buttons", "lt", "rt", "lx", "ly", "rx", "ry"]

/-- An input event is a record. -/
theorem inputEvent_record :
    inputEvent (UInt8.ofNat s) g = inputHead ++ recordText (inputFields s g) := by
  have hslot : (UInt8.ofNat s).toNat = s.val := by
    rw [UInt8.toNat_ofNat']
    exact Nat.mod_eq_of_lt (Nat.lt_trans s.isLt (by decide))
  have hprint (n : Nat) : printUnsigned n = printInt n := by simp [printInt]
  have hhead : "\x7b\"type\":\"input\",\"slot\":".toList =
      inputHead ++ (',' :: keyNeedle "slot") := by decide
  have hbuttons : ",\"buttons\":".toList = ',' :: keyNeedle "buttons" := by decide
  have hlt : ",\"lt\":".toList = ',' :: keyNeedle "lt" := by decide
  have hrt : ",\"rt\":".toList = ',' :: keyNeedle "rt" := by decide
  have hlx : ",\"lx\":".toList = ',' :: keyNeedle "lx" := by decide
  have hly : ",\"ly\":".toList = ',' :: keyNeedle "ly" := by decide
  have hrx : ",\"rx\":".toList = ',' :: keyNeedle "rx" := by decide
  have hry : ",\"ry\":".toList = ',' :: keyNeedle "ry" := by decide
  unfold inputEvent inputFields
  rw [hslot, hhead, hbuttons, hlt, hrt, hlx, hly, hrx, hry]
  simp only [recordText, hprint, List.append_assoc, List.cons_append]

theorem inputFields_range : ∀ field ∈ inputFields s g,
    -0x80000000 ≤ field.2 ∧ field.2 < 0x80000000 := by
  have hslot : s.val < 8 := s.isLt
  have hbuttons := g.buttons.toNat_lt
  have hleft := g.triggerL.toNat_lt
  have hright := g.triggerR.toNat_lt
  have hlx := And.intro g.stickLx.le_toInt g.stickLx.toInt_lt
  have hly := And.intro g.stickLy.le_toInt g.stickLy.toInt_lt
  have hrx := And.intro g.stickRx.le_toInt g.stickRx.toInt_lt
  have hry := And.intro g.stickRy.le_toInt g.stickRy.toInt_lt
  intro field hfield
  simp only [inputFields, List.mem_cons, List.not_mem_nil, or_false] at hfield
  rcases hfield with rfl | rfl | rfl | rfl | rfl | rfl | rfl | rfl <;> simp only <;> omega

/-- No key of an input event is mistaken for another. -/
theorem inputKeys_clear : ∀ key ∈ inputKeys,
    clear (keyNeedle key) (inputHead ++ [',']) = true ∧
      ∀ name ∈ inputKeys, name ≠ key → clear (keyNeedle key) (',' :: keyNeedle name) = true := by
  decide

theorem inputTypes_clear : ∀ type ∈ ["connected", "disconnected", "guide", "hid_unavailable"],
    clear (typeNeedle type) (inputHead ++ [',']) = true ∧
      ∀ name ∈ inputKeys, clear (typeNeedle type) (',' :: keyNeedle name) = true := by
  decide

theorem mem_inputKeys {field : String × Int} (hfield : field ∈ inputFields s g) :
    field.1 ∈ inputKeys :=
  List.mem_map_of_mem (f := Prod.fst) hfield

theorem inputEvent_getInt {key : String} (hkey : key ∈ inputKeys) :
    jsonGetInt (inputEvent (UInt8.ofNat s) g) key = (inputFields s g).lookup key := by
  obtain ⟨hhead, hkeys⟩ := inputKeys_clear key hkey
  rw [← jsonGetInt_record (fun field hfield => hkeys _ (mem_inputKeys s g hfield))
    (inputFields_range s g), inputEvent_record]
  obtain ⟨more, hneedle⟩ := keyNeedle_quote key
  simp only [jsonGetInt, jsonValue, hneedle] at hhead ⊢
  rw [inputFields, strstr_head hhead]

theorem inputEvent_types : jsonHasType (inputEvent (UInt8.ofNat s) g) "input" = true ∧
    ∀ type ∈ ["connected", "disconnected", "guide", "hid_unavailable"],
      jsonHasType (inputEvent (UInt8.ofNat s) g) type = false := by
  rw [inputEvent_record]
  constructor
  · have hhead : inputHead = '{' :: typeNeedle "input" := by decide
    obtain ⟨more, hneedle⟩ := typeNeedle_quote "input"
    rw [jsonHasType, hhead, List.cons_append, hneedle, strstr_skip_one (by decide), ← hneedle,
      strstr_found]
    rfl
  · intro type htype
    obtain ⟨hhead, hkeys⟩ := inputTypes_clear type htype
    obtain ⟨more, hneedle⟩ := typeNeedle_quote type
    rw [hneedle] at hhead hkeys
    have hnone : strstr ('"' :: more) (recordText (inputFields s g)) = none :=
      strstr_record_none fun field hfield => hkeys _ (mem_inputKeys s g hfield)
    rw [inputFields] at hnone ⊢
    rw [jsonHasType, hneedle, strstr_head hhead, hnone]
    rfl

/-- The bridge puts together the input the daemon took apart. -/
theorem parsedInput_inputEvent : Bridge.parsedInput (inputEvent (UInt8.ofNat s) g) = g := by
  have hget {key : String} (hkey : key ∈ inputKeys) := inputEvent_getInt s g hkey
  have hword (u : UInt16) : UInt16.ofInt u.toNat = u := by
    have hlt := u.toNat_lt
    rw [UInt16.ofInt, Int.emod_eq_of_lt (by omega) (by omega), Int.toNat_natCast,
      UInt16.ofNat_toNat]
  have hbuttons : (inputFields s g).lookup "buttons" = some (g.buttons.toNat : Int) := rfl
  have hlt : (inputFields s g).lookup "lt" = some (g.triggerL.toNat : Int) := rfl
  have hrt : (inputFields s g).lookup "rt" = some (g.triggerR.toNat : Int) := rfl
  have hlx : (inputFields s g).lookup "lx" = some g.stickLx.toInt := rfl
  have hly : (inputFields s g).lookup "ly" = some g.stickLy.toInt := rfl
  have hrx : (inputFields s g).lookup "rx" = some g.stickRx.toInt := rfl
  have hry : (inputFields s g).lookup "ry" = some g.stickRy.toInt := rfl
  simp only [Bridge.parsedInput, hget (by decide : "buttons" ∈ inputKeys), hbuttons,
    hget (by decide : "lt" ∈ inputKeys), hlt, hget (by decide : "rt" ∈ inputKeys), hrt,
    hget (by decide : "lx" ∈ inputKeys), hlx, hget (by decide : "ly" ∈ inputKeys), hly,
    hget (by decide : "rx" ∈ inputKeys), hrx, hget (by decide : "ry" ∈ inputKeys), hry,
    Option.getD_some, hword, Int16.ofInt_toInt]

theorem recordText_plain {fields : List (String × Int)}
    (hkeys : ∀ field ∈ fields, Plain (keyNeedle field.1)) : Plain (recordText fields) := by
  induction fields with
  | nil => decide
  | cons field fields ih =>
      have hrest := ih fun field hfield => hkeys field (List.mem_cons_of_mem _ hfield)
      have hnumber : Plain (printInt field.2) := by
        intro c hc
        rcases printInt_chars hc with hdigit | rfl
        · refine ⟨by rintro rfl; exact absurd hdigit (by decide), ?_⟩
          have hspace := isDigit_not_space hdigit
          simp only [isSpace, Bool.or_eq_false_iff] at hspace
          simp only [Bridge.lineEnd, hspace, Bool.or_self]
        · decide
      intro c hc
      rcases List.mem_cons.mp hc with rfl | hc
      · decide
      · rcases List.mem_append.mp hc with hkey | hc
        · exact hkeys field List.mem_cons_self c hkey
        · rcases List.mem_append.mp hc with hdigits | hc
          · exact hnumber c hdigits
          · exact hrest c hc

theorem inputKeys_plain : Plain inputHead ∧ ∀ key ∈ inputKeys, Plain (keyNeedle key) := by
  decide

theorem inputEvent_plain : Plain (inputEvent (UInt8.ofNat s) g) := by
  rw [inputEvent_record]
  intro c hc
  rcases List.mem_append.mp hc with hhead | hc
  · exact inputKeys_plain.1 c hhead
  · exact recordText_plain (fun field hfield => inputKeys_plain.2 _ (mem_inputKeys s g hfield)) c hc

theorem recordText_length {fields : List (String × Int)}
    (hkeys : ∀ field ∈ fields, (keyNeedle field.1).length ≤ 10)
    (hrange : ∀ field ∈ fields, -0x80000000 ≤ field.2 ∧ field.2 < 0x80000000) :
    (recordText fields).length ≤ 1 + 22 * fields.length := by
  induction fields with
  | nil => decide
  | cons field fields ih =>
      have hrest := ih (fun field hfield => hkeys field (List.mem_cons_of_mem _ hfield))
        (fun field hfield => hrange field (List.mem_cons_of_mem _ hfield))
      have hkey := hkeys field List.mem_cons_self
      have hnumber : (printInt field.2).length ≤ 11 := by
        obtain ⟨hlow, hhigh⟩ := hrange field List.mem_cons_self
        exact length_printInt_le hlow hhigh
      simp only [recordText, List.length_cons, List.length_append]
      omega

theorem inputKeys_length : inputHead.length ≤ 20 ∧
    ∀ key ∈ inputKeys, (keyNeedle key).length ≤ 10 := by
  decide

theorem inputEvent_sendable : Sendable (inputEvent (UInt8.ofNat s) g) := by
  have hrecord := recordText_length
    (fun field hfield => inputKeys_length.2 _ (mem_inputKeys s g hfield)) (inputFields_range s g)
  have height : (inputFields s g).length = 8 := rfl
  have hhead := inputKeys_length.1
  refine ⟨inputEvent_plain s g, ?_, ?_⟩
  · rw [inputEvent_record]
    exact List.append_ne_nil_of_right_ne_nil _ (List.cons_ne_nil _ _)
  · rw [inputEvent_record, List.length_append]
    omega

end

/-! ## From the socket to the handlers -/

/-- What is received of a sendable line, cut up again, is that line. -/
theorem lines_sent {line : List Char} (hline : Sendable line) :
    Bridge.lines (line ++ ['\n']) = [line] := by
  obtain ⟨hplain, hne, hlength⟩ := hline
  have hshort : (line ++ ['\n']).length ≤ 4095 := by
    rw [List.length_append, List.length_singleton]
    omega
  have hnull : (line ++ ['\n']).takeWhile (· ≠ '\x00') = line ++ ['\n'] := by
    refine List.takeWhile_eq_self_iff.mpr fun c hc => ?_
    rcases List.mem_append.mp hc with hline | hend
    · exact decide_eq_true (hplain c hline).1
    · rw [List.mem_singleton.mp hend]
      decide
  rw [Bridge.lines, List.take_of_length_le hshort, hnull]
  exact strtok_line hne (fun c hc => (hplain c hc).2) (by decide)

namespace Bridge

variable (host : Host) (bridge : Bridge)

/-- A datagram with one plain line is handled as that line. -/
theorem receive_line {line : List Char} (hline : Sendable line) :
    bridge.receive host (line.take 318 ++ ['\n']) = bridge.handleEventLine host line := by
  rw [receive, List.take_of_length_le hline.2.2, lines_sent hline]
  rfl

theorem bridgeSlot?_val (s : Fin maxSlots) : bridgeSlot? s.val = some s := by
  revert s
  decide

end Bridge

end XoneDarwin
