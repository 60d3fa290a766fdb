import XoneDarwin.Injector.Lines
import XoneDarwin.Machine.Json
import XoneDarwin.Mapper.Datagrams

/-!
# The daemon's datagrams as JSON

What the daemon prints are flat objects, one in a datagram. A library that reads such
objects gives the mapper the event that was meant.
-/

namespace XoneDarwin.Mapper

open Machine (Json)

/-! ## Flat objects in Python -/

/-- A value as `json.loads` returns it. -/
def asValue : Json → Value
  | .str s => .str (s.map Char.toNat)
  | .int n => .int n
  | .bool b => .bool b

def asObject (members : Json.Members) : Value :=
  .object (members.map fun member => (member.1.map Char.toNat, asValue member.2))

/-- Members with different names and numbers of 64 bits, written without escapes. -/
structure Flat (members : Json.Members) : Prop where
  plain : Json.PlainMembers members
  names : (members.map Prod.fst).Nodup
  numbers : ∀ member ∈ members, ∀ n, member.2 = .int n → n.natAbs < 2 ^ 63

/-- `json.loads` reads such objects. -/
def Python.LoadsFlat (python : Python) : Prop :=
  ∀ members : Json.Members, Flat members →
    python.loads (Json.writeObject members) = .value (asObject members)

/-- A library that reads nothing else. -/
def flatPython : Python where
  loads line :=
    match Json.readObject? line with
    | some members => .value (asObject members)
    | none => .malformed
  intOfText _ := none

theorem flatPython_loadsFlat : flatPython.LoadsFlat := by
  intro members hmembers
  simp only [flatPython, Json.readObject?_write hmembers.plain]

/-! ## Events as objects -/

/-- Members under their names. -/
def named (fields : List (String × Json)) : Json.Members :=
  fields.map fun field => (field.1.toList, field.2)

/-- The member that only guide events have. -/
def pressedField : PadEvent → List (String × Json)
  | .guide pressed => [("pressed", .bool pressed)]
  | _ => []

def eventFields (s : Fin maxSlots) (event : PadEvent) : List (String × Json) :=
  ("type", .str event.typeName.toList) ::
    (((event.fields s).map fun field => (field.1, Json.int field.2)) ++ pressedField event)

def hidUnavailableFields : List (String × Json) :=
  [("type", .str "hid_unavailable".toList)]

theorem keyNeedle_eq : ∀ key ∈ inputKeys,
    keyNeedle key = Json.writeString key.toList ++ [':'] := by
  decide

theorem recordText_eq {fields : List (String × Int)} (hkeys : ∀ field ∈ fields, field.1 ∈ inputKeys) :
    recordText fields =
      Json.writeRest (fields.map fun field => (field.1.toList, Json.int field.2)) := by
  induction fields with
  | nil => rfl
  | cons field fields ih =>
      obtain ⟨hfield, hfields⟩ := List.forall_mem_cons.mp hkeys
      rw [recordText, keyNeedle_eq field.1 hfield, ih hfields, List.map_cons, Json.writeRest,
        Json.writeMember, Json.write]
      simp

/-- The daemon prints objects. -/
theorem text_eq_writeObject (s : Fin maxSlots) (event : PadEvent) :
    event.text s = Json.writeObject (named (eventFields s event)) := by
  cases event with
  | connect =>
      revert s
      decide
  | disconnect =>
      revert s
      decide
  | guide pressed =>
      revert s pressed
      decide
  | input g =>
      have hhead : inputHead =
          '\x7b' :: Json.writeMember ("type".toList, .str "input".toList) := by decide
      have hmembers : named (eventFields s (.input g)) = ("type".toList, .str "input".toList) ::
          (inputFields s g).map fun field => (field.1.toList, Json.int field.2) := by
        have hpressed : pressedField (.input g) = [] := rfl
        rw [named, eventFields, hpressed, List.append_nil, List.map_cons, List.map_map]
        rfl
      rw [PadEvent.text, inputEvent_record, hhead, hmembers,
        recordText_eq fun field hfield => mem_inputKeys s g hfield, Json.writeObject]
      rfl

theorem hidUnavailable_eq_writeObject :
    hidUnavailableEvent = Json.writeObject (named hidUnavailableFields) := by
  decide

theorem fields_keys (s : Fin maxSlots) (event : PadEvent) :
    ∀ field ∈ event.fields s, field.1 ∈ inputKeys := by
  cases event with
  | input g => exact fun field hfield => mem_inputKeys s g hfield
  | connect => simp [PadEvent.fields, inputKeys]
  | disconnect => simp [PadEvent.fields, inputKeys]
  | guide pressed => simp [PadEvent.fields, inputKeys]

theorem fields_range (s : Fin maxSlots) (event : PadEvent) :
    ∀ field ∈ event.fields s, -0x80000000 ≤ field.2 ∧ field.2 < 0x80000000 := by
  have hslot : ∀ field ∈ [("slot", (s.val : Int))],
      -0x80000000 ≤ field.2 ∧ field.2 < 0x80000000 := by
    have hs : s.val < 8 := s.isLt
    intro field hfield
    rw [List.mem_singleton.mp hfield]
    dsimp only
    omega
  cases event with
  | input g => exact inputFields_range s g
  | connect => exact hslot
  | disconnect => exact hslot
  | guide pressed => exact hslot

theorem plain_of_all {words : List String}
    (h : (words.all fun word => word.toList.all Json.plain) = true) :
    ∀ word ∈ words, ∀ c ∈ word.toList, Json.plain c = true := by
  intro word hword
  exact List.all_eq_true.mp (List.all_eq_true.mp h word hword)

theorem eventFields_flat (s : Fin maxSlots) (event : PadEvent) :
    Flat (named (eventFields s event)) where
  plain := by
    have hkeys : ∀ key ∈ "type" :: "pressed" :: inputKeys, ∀ c ∈ key.toList,
        Json.plain c = true :=
      plain_of_all (by decide)
    have htypes : ∀ type ∈ ["connected", "disconnected", "input", "guide"], ∀ c ∈ type.toList,
        Json.plain c = true :=
      plain_of_all (by decide)
    have htype : ∀ c ∈ event.typeName.toList, Json.plain c = true :=
      htypes event.typeName (by cases event <;> simp [PadEvent.typeName])
    intro member hmember
    obtain ⟨field, hfield, rfl⟩ := List.mem_map.mp hmember
    dsimp only
    rcases List.mem_cons.mp hfield with rfl | hrest
    · exact ⟨hkeys "type" List.mem_cons_self, htype⟩
    · rcases List.mem_append.mp hrest with hnumbers | hlast
      · obtain ⟨number, hnumber, rfl⟩ := List.mem_map.mp hnumbers
        have hkey := fields_keys s event number hnumber
        exact ⟨hkeys number.1 (List.mem_cons_of_mem _ (List.mem_cons_of_mem _ hkey)), trivial⟩
      · cases event with
        | guide pressed =>
            rw [List.mem_singleton.mp hlast]
            exact ⟨hkeys "pressed" (List.mem_cons_of_mem _ List.mem_cons_self), trivial⟩
        | connect => exact absurd hlast List.not_mem_nil
        | disconnect => exact absurd hlast List.not_mem_nil
        | input g => exact absurd hlast List.not_mem_nil
  names := by
    have hnames : (named (eventFields s event)).map Prod.fst =
        ("type" :: ((event.fields s).map Prod.fst ++ (pressedField event).map Prod.fst)).map
          String.toList := by
      simp [named, eventFields, List.map_map, Function.comp_def]
    rw [hnames]
    cases event with
    | connect => exact (by decide : (["type", "slot"].map String.toList).Nodup)
    | disconnect => exact (by decide : (["type", "slot"].map String.toList).Nodup)
    | guide pressed => exact (by decide : (["type", "slot", "pressed"].map String.toList).Nodup)
    | input g => exact (by decide : (("type" :: inputKeys).map String.toList).Nodup)
  numbers := by
    intro member hmember n hn
    obtain ⟨field, hfield, rfl⟩ := List.mem_map.mp hmember
    have hnumber : ∃ number ∈ event.fields s, number.2 = n := by
      rcases List.mem_cons.mp hfield with rfl | hrest
      · cases hn
      · rcases List.mem_append.mp hrest with hnumbers | hlast
        · obtain ⟨number, hnumber, rfl⟩ := List.mem_map.mp hnumbers
          exact ⟨number, hnumber, Json.int.inj hn⟩
        · cases event with
          | guide pressed =>
              rw [List.mem_singleton.mp hlast] at hn
              cases hn
          | connect => exact absurd hlast List.not_mem_nil
          | disconnect => exact absurd hlast List.not_mem_nil
          | input g => exact absurd hlast List.not_mem_nil
    obtain ⟨number, hnumber, rfl⟩ := hnumber
    have hrange := fields_range s event number hnumber
    omega

theorem hidUnavailableFields_flat : Flat (named hidUnavailableFields) where
  plain := by
    intro member hmember
    rw [List.mem_singleton.mp hmember]
    have hwords := plain_of_all
      (by decide : (["type", "hid_unavailable"].all fun word => word.toList.all Json.plain) = true)
    exact ⟨hwords "type" List.mem_cons_self,
      hwords "hid_unavailable" (List.mem_cons_of_mem _ (List.mem_singleton_self _))⟩
  names := List.nodup_singleton _
  numbers := by
    intro member hmember n hn
    rw [List.mem_singleton.mp hmember] at hn
    cases hn

/-! ## Lines -/

/-- Characters of ASCII that are no control characters. -/
def Printable (line : List Char) : Prop :=
  ∀ c ∈ line, 0x20 ≤ c.toNat ∧ c.toNat < 0x7f

instance (line : List Char) : Decidable (Printable line) :=
  List.decidableBAll (fun c : Char => 0x20 ≤ c.toNat ∧ c.toNat < 0x7f) line

theorem Printable.append {first second : List Char} (hfirst : Printable first)
    (hsecond : Printable second) : Printable (first ++ second) :=
  List.forall_mem_append.mpr ⟨hfirst, hsecond⟩

theorem printable_printInt (n : Int) : Printable (CString.printInt n) := by
  intro c hc
  rcases CString.printInt_chars hc with hdigit | rfl
  · simp only [Char.isDigit, Bool.and_eq_true, decide_eq_true_eq] at hdigit
    have hlow : 48 ≤ c.toNat := hdigit.1
    have hhigh : c.toNat ≤ 57 := hdigit.2
    omega
  · decide

theorem printable_recordText {fields : List (String × Int)}
    (hkeys : ∀ field ∈ fields, field.1 ∈ inputKeys) : Printable (recordText fields) := by
  have hneedle : ∀ key ∈ inputKeys, Printable (',' :: keyNeedle key) := by decide
  induction fields with
  | nil => exact (by decide : Printable "\x7d".toList)
  | cons field fields ih =>
      obtain ⟨hfield, hfields⟩ := List.forall_mem_cons.mp hkeys
      rw [recordText, ← List.cons_append]
      exact (hneedle field.1 hfield).append ((printable_printInt field.2).append (ih hfields))

theorem text_printable (s : Fin maxSlots) (event : PadEvent) : Printable (event.text s) := by
  cases event with
  | connect =>
      revert s
      decide
  | disconnect =>
      revert s
      decide
  | guide pressed =>
      revert s pressed
      decide
  | input g =>
      rw [PadEvent.text, inputEvent_record]
      exact (by decide : Printable inputHead).append
        (printable_recordText fun field hfield => mem_inputKeys s g hfield)

/-- A line as the bytes of a datagram. -/
def lineBytes (line : List Char) : List UInt8 :=
  line.map fun c => UInt8.ofNat c.toNat

theorem decodeFirst_ascii {c : Char} (hc : c.toNat < 0x80) :
    decodeFirst (UInt8.ofNat c.toNat) = ([c], none) := by
  have hbyte : (UInt8.ofNat c.toNat).toNat = c.toNat :=
    UInt8.toNat_ofNat_of_lt' (hc.trans (by decide))
  rw [decodeFirst, hbyte, if_pos hc, Char.ofNat_toNat]

theorem decode_ascii {line : List Char} (hline : ∀ c ∈ line, c.toNat < 0x80) :
    decode (lineBytes line) = line := by
  unfold decode lineBytes
  induction line with
  | nil => rfl
  | cons c line ih =>
      obtain ⟨hc, hrest⟩ := List.forall_mem_cons.mp hline
      rw [List.map_cons, decodeFrom, decodeFirst_ascii hc, ih hrest]
      rfl

theorem Printable.not_lineEnd {line : List Char} (hline : Printable line) :
    ∀ c ∈ line, isLineEnd c = false := by
  intro c hc
  obtain ⟨hlow, hhigh⟩ := hline c hc
  have hrange : ∀ n < 0x7f, 0x20 ≤ n → [0x0a, 0x0b, 0x0c, 0x0d, 0x1c, 0x1d, 0x1e, 0x85, 0x2028,
      0x2029].contains n = false := by decide
  exact hrange c.toNat hhigh hlow

theorem strip_braces (line : List Char) :
    strip ('\x7b' :: (line ++ ['\x7d'])) = '\x7b' :: (line ++ ['\x7d']) := by
  have hopen : isSpace '\x7b' = false := by decide
  have hclose : isSpace '\x7d' = false := by decide
  have hfront : ('\x7b' :: (line ++ ['\x7d'])).dropWhile isSpace = '\x7b' :: (line ++ ['\x7d']) :=
    List.dropWhile_cons_of_neg (by rw [hopen]; exact Bool.false_ne_true)
  have hback : ('\x7d' :: (line.reverse ++ ['\x7b'])).dropWhile isSpace =
      '\x7d' :: (line.reverse ++ ['\x7b']) :=
    List.dropWhile_cons_of_neg (by rw [hclose]; exact Bool.false_ne_true)
  have hreverse : ('\x7b' :: (line ++ ['\x7d'])).reverse = '\x7d' :: (line.reverse ++ ['\x7b']) := by
    simp
  rw [strip, hfront, hreverse, hback, ← hreverse, List.reverse_reverse]

/-- A printable object is the one line of its datagram. -/
theorem datagramLines_object {members : Json.Members} {line : List Char}
    (hobject : line = Json.writeObject members) (hline : Printable line) :
    datagramLines (lineBytes (line ++ ['\n'])) = [line] := by
  obtain ⟨inner, hinner⟩ := Json.writeObject_braces members
  have hbraces := hobject.trans hinner
  have hne : line ≠ [] := by
    rw [hbraces]
    exact List.cons_ne_nil _ _
  have hascii : ∀ c ∈ line ++ ['\n'], c.toNat < 0x80 := by
    intro c hc
    rcases List.mem_append.mp hc with hchar | hend
    · exact (hline c hchar).2.trans (by decide)
    · rw [List.mem_singleton.mp hend]
      decide
  have hlines : Lines.lines isLineEnd (line ++ ['\n']) = [line] := by
    rw [Lines.lines_append_cons line [] (by decide), Lines.lines_word hne hline.not_lineEnd]
    rfl
  have hstrip : strip line = line := by
    rw [hbraces]
    exact strip_braces inner
  rw [datagramLines, decode_ascii hascii, hlines, List.map_singleton, hstrip,
    List.filter_cons_of_pos (by simp [hne])]
  rfl

/-! ## Events as the mapper reads them -/

/-- The values of an input event. -/
def inputValues (g : GipInput) : Fields where
  buttons := some g.buttons.toNat
  lt := some g.triggerL.toNat
  rt := some g.triggerR.toNat
  lx := some g.stickLx.toInt
  ly := some g.stickLy.toInt
  rx := some g.stickRx.toInt
  ry := some g.stickRy.toInt

/-- What the mapper takes an event for. It has no use for the guide button. -/
def eventOf (s : Fin maxSlots) : PadEvent → Option Event
  | .connect => some (.connected s)
  | .disconnect => some (.disconnected s)
  | .input g => some (.input s (inputValues g))
  | .guide _ => none

theorem slotOfInt?_val (s : Fin maxSlots) : slotOfInt? s.val = some s := by
  have hs : s.val < 8 := s.isLt
  rw [slotOfInt?, dif_neg (by omega)]
  rfl

theorem text_injective : Function.Injective text :=
  fun _ _ htext => String.toList_injective
    (List.map_injective_iff.mpr (fun _ _ hc => Char.toNat_inj.mp hc) htext)

/-- The fields of an object as Python has them. -/
def asFields (fields : List (String × Json)) : List (Text × Value) :=
  fields.map fun field => (text field.1, asValue field.2)

theorem asObject_named (fields : List (String × Json)) :
    asObject (named fields) = .object (asFields fields) := by
  rw [asObject, named, List.map_map]
  rfl

section

variable {fields : List (String × Json)} {name : String}

theorem lookup_asFields :
    (asFields fields).lookup (text name) = (fields.lookup name).map asValue := by
  induction fields with
  | nil => rfl
  | cons field fields ih =>
      obtain ⟨other, value⟩ := field
      rw [asFields, List.map_cons, List.lookup_cons, List.lookup_cons]
      by_cases hname : name = other
      · rw [hname, beq_self_eq_true, beq_self_eq_true]
        rfl
      · rw [beq_false_of_ne hname, beq_false_of_ne (text_injective.ne hname)]
        exact ih

theorem readField_int (python : Python) {n : Int} (hfield : fields.lookup name = some (.int n)) :
    readField python (asFields fields) name = .ok (some n) := by
  rw [readField, lookup_asFields, hfield]
  rfl

theorem hasType_str {type : String} (hfield : fields.lookup "type" = some (.str type.toList)) :
    hasType (asFields fields) name = decide (type = name) := by
  have hvalue : asValue (.str type.toList) = .str (text type) := rfl
  rw [hasType, lookup_asFields, hfield, Option.map_some, hvalue]
  dsimp only
  by_cases hname : type = name
  · rw [hname, beq_self_eq_true, decide_eq_true rfl]
  · rw [beq_false_of_ne (text_injective.ne hname), decide_eq_false hname]

end

theorem lookup_type (s : Fin maxSlots) (event : PadEvent) :
    (eventFields s event).lookup "type" = some (.str event.typeName.toList) := by
  rw [eventFields, List.lookup_cons, beq_self_eq_true]

theorem lookup_number (s : Fin maxSlots) (event : PadEvent) {name : String}
    (hname : name ∈ inputKeys) {n : Int} (hn : (event.fields s).lookup name = some n) :
    (eventFields s event).lookup name = some (.int n) := by
  have hnot : name ≠ "type" := by
    rintro rfl
    exact absurd hname (by decide)
  have hmap (fields : List (String × Int)) :
      (fields.map fun field => (field.1, Json.int field.2)).lookup name =
        (fields.lookup name).map Json.int := by
    induction fields with
    | nil => rfl
    | cons field fields ih =>
        rw [List.map_cons, List.lookup_cons, List.lookup_cons, ih]
        split <;> rfl
  rw [eventFields, List.lookup_cons, beq_false_of_ne hnot, List.lookup_append, hmap, hn]
  rfl

/-- An object whose slot is in range. -/
theorem readEvent_object (python : Python) {fields : List (Text × Value)} {s : Fin maxSlots}
    (hslot : readField python fields "slot" = .ok (some s.val)) :
    readEvent python (.object fields) =
      if hasType fields "connected" then pure (some (.connected s))
      else if hasType fields "disconnected" then pure (some (.disconnected s))
      else if hasType fields "input" then do
        let buttons ← readField python fields "buttons"
        let lt ← readField python fields "lt"
        let rt ← readField python fields "rt"
        let lx ← readField python fields "lx"
        let ly ← readField python fields "ly"
        let rx ← readField python fields "rx"
        let ry ← readField python fields "ry"
        pure (some (.input s ⟨buttons, lt, rt, lx, ly, rx, ry⟩))
      else pure none := by
  have hsome : slotOfInt? ((some (s.val : Int)).getD 0) = some s := slotOfInt?_val s
  rw [readEvent, hslot]
  simp only [bind, Except.bind, hsome]

theorem readEvent_fields (python : Python) (s : Fin maxSlots) (event : PadEvent) :
    readEvent python (asObject (named (eventFields s event))) = .ok (eventOf s event) := by
  have htype (name : String) :
      hasType (asFields (eventFields s event)) name = decide (event.typeName = name) :=
    hasType_str (lookup_type s event)
  have hread {name : String} (hname : name ∈ inputKeys) {n : Int}
      (hn : (event.fields s).lookup name = some n) :
      readField python (asFields (eventFields s event)) name = .ok (some n) :=
    readField_int python (lookup_number s event hname hn)
  have hslot : readField python (asFields (eventFields s event)) "slot" = .ok (some s.val) :=
    hread (by decide) (by cases event <;> rfl)
  rw [asObject_named, readEvent_object python hslot]
  simp only [htype]
  cases event with
  | connect => rfl
  | disconnect => rfl
  | guide pressed => rfl
  | input g =>
      have hinput (name : String) (hname : name ∈ inputKeys) {n : Int}
          (hn : (inputFields s g).lookup name = some n) :
          readField python (asFields (eventFields s (.input g))) name = .ok (some n) :=
        hread hname hn
      rw [hinput "buttons" (by decide) rfl, hinput "lt" (by decide) rfl,
        hinput "rt" (by decide) rfl, hinput "lx" (by decide) rfl, hinput "ly" (by decide) rfl,
        hinput "rx" (by decide) rfl, hinput "ry" (by decide) rfl]
      rfl

theorem readEvent_hidUnavailable (python : Python) :
    readEvent python (asObject (named hidUnavailableFields)) = .ok none := by
  have htype (name : String) :
      hasType (asFields hidUnavailableFields) name = decide ("hid_unavailable" = name) :=
    hasType_str rfl
  have hslot : readField python (asFields hidUnavailableFields) "slot" = .ok none := by
    rw [readField, lookup_asFields]
    rfl
  rw [asObject_named, readEvent, hslot]
  simp only [htype]
  rfl

/-! ## Datagrams -/

/-- What the daemon tells: an event of a slot, or that there are no virtual gamepads. -/
abbrev Message := Option (Fin maxSlots × PadEvent)

/-- The datagram of a message. -/
def messageText : Message → List Char
  | none => hidUnavailableEvent.take 318 ++ ['\n']
  | some call => (call.2.text call.1).take 318 ++ ['\n']

def messageEvent (message : Message) : Option Event :=
  message.bind fun call => eventOf call.1 call.2

section

variable {Time : Type} (clock : Clock Time) {python : Python}

/-- A datagram of the daemon is one event, or nothing to the mapper. -/
theorem pollUdp_message (hloads : python.LoadsFlat) (app : App Time) (readings : Nat → Readings Time)
    (message : Message) :
    app.pollUdp python clock readings (lineBytes (messageText message)) =
      (messageEvent message).elim (.ok app) fun event =>
        (app.applyEvent clock (readings 0).now (readings 0).judged event).elim
          (.error .indexError) .ok := by
  have hline {line : List Char} {fields : List (String × Json)} {event : Option Event}
      (hobject : line = Json.writeObject (named fields)) (hprintable : Printable line)
      (hflat : Flat (named fields))
      (hread : readEvent python (asObject (named fields)) = .ok event) :
      app.pollUdp python clock readings (lineBytes (line ++ ['\n'])) =
        event.elim (.ok app) fun event =>
          (app.applyEvent clock (readings 0).now (readings 0).judged event).elim
            (.error .indexError) .ok := by
    have hloaded : python.loads line = .value (asObject (named fields)) :=
      hobject ▸ hloads (named fields) hflat
    rw [App.pollUdp, datagramLines_object hobject hprintable, App.applyLines, App.applyLine, hloaded]
    simp only [App.applyJson, hread]
    cases event with
    | none => rfl
    | some event =>
        let applied : Except Raised (App Time) :=
          (app.applyEvent clock (readings 0).now (readings 0).judged event).elim
            (.error .indexError) .ok
        exact bind_pure applied
  cases message with
  | none =>
      rw [messageText, List.take_of_length_le hidUnavailableEvent_sendable.2.2]
      exact hline hidUnavailable_eq_writeObject (by decide) hidUnavailableFields_flat
        (readEvent_hidUnavailable python)
  | some call =>
      rw [messageText, List.take_of_length_le (call.2.text_sendable call.1).2.2]
      exact hline (text_eq_writeObject call.1 call.2) (text_printable call.1 call.2)
        (eventFields_flat call.1 call.2) (readEvent_fields python call.1 call.2)

end

end XoneDarwin.Mapper
