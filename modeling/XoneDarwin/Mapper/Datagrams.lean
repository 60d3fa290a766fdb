import XoneDarwin.Machine.Lines
import XoneDarwin.Mapper.Wizard

/-!
# Datagrams

A datagram holds lines of JSON. `poll_udp` passes over a line that is no JSON; whatever else
goes wrong with a line ends the program.
-/

namespace XoneDarwin.Mapper

open Machine (run)

/-! ## Python -/

inductive Raised
  | attributeError
  | indexError
  | overflowError
  | recursionError
  | typeError
  | valueError
  deriving DecidableEq

/-- A string, by its code points: JSON can name surrogates. -/
abbrev Text := List Nat

def text (s : String) : Text :=
  s.toList.map Char.toNat

/-- What `json.loads` can return. -/
inductive Value
  | null
  | bool (b : Bool)
  | int (n : Int)
  /-- a float, by what `int` makes of it -/
  | float (whole : Except Raised Int)
  | str (s : Text)
  | array (items : List Value)
  | object (fields : List (Text × Value))

inductive Loaded
  | value (value : Value)
  /-- `JSONDecodeError` -/
  | malformed
  /-- any other exception, such as for nesting that is too deep -/
  | raised (error : Raised)

/-- What the mapper leaves to the library. -/
structure Python where
  /-- `json.loads` -/
  loads : List Char → Loaded
  /-- `int` of a string; `none` is its `ValueError` -/
  intOfText : Text → Option Int

/-- What stands for bytes that are no UTF-8. -/
def replacement : Char := Char.ofNat 0xfffd

/-- A character of which some bytes are still to come, the next one between two bounds. -/
structure Pending where
  value : Nat
  missing : Nat
  low : Nat
  high : Nat

/-- The first byte of a character. -/
def decodeFirst (b : UInt8) : List Char × Option Pending :=
  let n := b.toNat
  if n < 0x80 then ([Char.ofNat n], none)
  else if 0xc2 ≤ n ∧ n ≤ 0xdf then ([], some ⟨n - 0xc0, 1, 0x80, 0xbf⟩)
  else if n = 0xe0 then ([], some ⟨0, 2, 0xa0, 0xbf⟩)
  else if n = 0xed then ([], some ⟨0xd, 2, 0x80, 0x9f⟩)
  else if 0xe1 ≤ n ∧ n ≤ 0xef then ([], some ⟨n - 0xe0, 2, 0x80, 0xbf⟩)
  else if n = 0xf0 then ([], some ⟨0, 3, 0x90, 0xbf⟩)
  else if 0xf1 ≤ n ∧ n ≤ 0xf3 then ([], some ⟨n - 0xf0, 3, 0x80, 0xbf⟩)
  else if n = 0xf4 then ([], some ⟨4, 3, 0x80, 0x8f⟩)
  else ([replacement], none)

/-- A character that breaks off is replaced, and the byte it breaks off at starts another. -/
def decodeFrom : Option Pending → List UInt8 → List Char
  | none, [] => []
  | some _, [] => [replacement]
  | none, b :: rest => (decodeFirst b).1 ++ decodeFrom (decodeFirst b).2 rest
  | some p, b :: rest =>
      if p.low ≤ b.toNat ∧ b.toNat ≤ p.high then
        let value := p.value * 0x40 + (b.toNat - 0x80)
        if p.missing = 1 then Char.ofNat value :: decodeFrom none rest
        else decodeFrom (some ⟨value, p.missing - 1, 0x80, 0xbf⟩) rest
      else replacement :: ((decodeFirst b).1 ++ decodeFrom (decodeFirst b).2 rest)

/-- `data.decode("utf-8", "replace")`. -/
def decode (data : List UInt8) : List Char :=
  decodeFrom none data

/-- Where `splitlines` ends a line. -/
def isLineEnd (c : Char) : Bool :=
  [0x0a, 0x0b, 0x0c, 0x0d, 0x1c, 0x1d, 0x1e, 0x85, 0x2028, 0x2029].contains c.toNat

/-- What `strip` takes off. -/
def isSpace (c : Char) : Bool :=
  isLineEnd c ||
    [0x09, 0x1f, 0x20, 0xa0, 0x1680, 0x202f, 0x205f, 0x3000].contains c.toNat ||
    (0x2000 ≤ c.toNat && c.toNat ≤ 0x200a)

def strip (line : List Char) : List Char :=
  ((line.dropWhile isSpace).reverse.dropWhile isSpace).reverse

/-- The lines that `poll_udp` looks at. It passes over empty ones, before and after `strip`. -/
def datagramLines (data : List UInt8) : List (List Char) :=
  ((Lines.lines isLineEnd (decode data)).map strip).filter fun line => !line.isEmpty

/-! ## Events -/

section

variable (python : Python)

/-- `int(value)`. -/
def Python.int : Value → Except Raised Int
  | .null => .error .typeError
  | .bool b => .ok (if b then 1 else 0)
  | .int n => .ok n
  | .float whole => whole
  | .str s => (python.intOfText s).elim (.error .valueError) .ok
  | .array _ => .error .typeError
  | .object _ => .error .typeError

/-- `int(evt.get(name, default))`, with `none` for the default. -/
def readField (fields : List (Text × Value)) (name : String) : Except Raised (Option Int) :=
  match fields.lookup (text name) with
  | none => .ok none
  | some value => (python.int value).map some

/-- `t == name`. -/
def hasType (fields : List (Text × Value)) (name : String) : Bool :=
  match fields.lookup (text "type") with
  | some (.str s) => s == text name
  | _ => false

/-- A slot number in range. -/
def slotOfInt? (slot : Int) : Option (Fin 8) :=
  if h : slot < 0 ∨ 8 ≤ slot then none else some ⟨slot.toNat, by omega⟩

/-- `apply_event`, as far as it reads the event. Every value but an object lacks `get`. -/
def readEvent : Value → Except Raised (Option Event)
  | .object fields => do
      let slot ← readField python fields "slot"
      match slotOfInt? (slot.getD 0) with
      | none => pure none
      | some slot =>
          if hasType fields "connected" then pure (some (.connected slot))
          else if hasType fields "disconnected" then pure (some (.disconnected slot))
          else if hasType fields "input" then do
            let buttons ← readField python fields "buttons"
            let lt ← readField python fields "lt"
            let rt ← readField python fields "rt"
            let lx ← readField python fields "lx"
            let ly ← readField python fields "ly"
            let rx ← readField python fields "rx"
            let ry ← readField python fields "ry"
            pure (some (.input slot ⟨buttons, lt, rt, lx, ly, rx, ry⟩))
          else pure none
  | _ => .error .attributeError

variable {Time : Type} (clock : Clock Time)

/-- `apply_event`. -/
def App.applyJson (app : App Time) (now judged : Time) (evt : Value) :
    Except Raised (App Time) := do
  match ← readEvent python evt with
  | none => pure app
  | some event => (app.applyEvent clock now judged event).elim (.error .indexError) .ok

/-- The readings of the clock for one line, in `apply_event` and `maybe_capture_wizard`. -/
structure Readings (Time : Type) where
  now : Time
  judged : Time

/-- One line of `poll_udp`. -/
def App.applyLine (app : App Time) (readings : Readings Time) (line : List Char) :
    Except Raised (App Time) :=
  match python.loads line with
  | .malformed => .ok app
  | .raised error => .error error
  | .value evt => app.applyJson python clock readings.now readings.judged evt

def App.applyLines (app : App Time) (readings : Nat → Readings Time) :
    List (List Char) → Except Raised (App Time)
  | [] => .ok app
  | line :: rest => do
      let app ← app.applyLine python clock (readings 0) line
      app.applyLines (fun n => readings (n + 1)) rest

/-- `poll_udp` for one datagram. -/
def App.pollUdp (app : App Time) (readings : Nat → Readings Time) (data : List UInt8) :
    Except Raised (App Time) :=
  app.applyLines python clock readings (datagramLines data)

/-! ## What is meant -/

/-- The event of a line, if it has one that can be read. -/
def lineEvent? (line : List Char) : Option Event :=
  match python.loads line with
  | .value evt => (readEvent python evt).toOption.join
  | _ => none

/-- The events of the good lines are applied, one after the other. -/
def App.applyGood (app : App Time) (readings : Nat → Readings Time) :
    List (List Char) → App Time
  | [] => app
  | line :: rest =>
      let next := (lineEvent? python line).elim app fun event =>
        (app.applyEvent clock (readings 0).now (readings 0).judged event).getD app
      next.applyGood (fun n => readings (n + 1)) rest

/-- The datagram is handled: nothing is raised, and the slots and the wizard are as the good lines
leave them. -/
def App.Handles (app : App Time) (readings : Nat → Readings Time) (data : List UInt8) : Prop :=
  ∃ after, app.pollUdp python clock readings data = .ok after ∧
    after.states = (app.applyGood python clock readings (datagramLines data)).states ∧
    after.wizard = (app.applyGood python clock readings (datagramLines data)).wizard

/-- `int` accepts the value. -/
def Value.Converts : Value → Prop
  | .bool _ => True
  | .int _ => True
  | .float whole => ∃ n, whole = .ok n
  | .str s => (python.intOfText s).isSome = true
  | _ => False

def FieldConverts (fields : List (Text × Value)) (name : String) : Prop :=
  ∀ value ∈ fields.lookup (text name), value.Converts python

/-- The slot an object names, if it is in range. -/
def slotOf? (fields : List (Text × Value)) : Option (Fin 8) :=
  (readField python fields "slot").toOption.bind fun slot => slotOfInt? (slot.getD 0)

/-- An object whose slot converts, and whose values convert if it is an input event of a slot in
range. -/
def Value.Acceptable : Value → Prop
  | .object fields =>
      FieldConverts python fields "slot" ∧
        ((slotOf? python fields).isSome = true → hasType fields "input" = true →
          ∀ name ∈ ["buttons", "lt", "rt", "lx", "ly", "rx", "ry"], FieldConverts python fields name)
  | _ => False

/-- The line is no JSON, or an acceptable object. -/
def LineAcceptable (line : List Char) : Prop :=
  match python.loads line with
  | .malformed => True
  | .raised _ => False
  | .value evt => evt.Acceptable python

/-! ## What is read -/

theorem exists_bind_ok {ε α β : Type} {x : Except ε α} {f : α → Except ε β} :
    (∃ b, (x >>= f) = .ok b) ↔ ∃ a, x = .ok a ∧ ∃ b, f a = .ok b := by
  cases x with
  | error e =>
      constructor
      · rintro ⟨b, hb⟩
        cases hb
      · rintro ⟨a, ha, -⟩
        cases ha
  | ok a =>
      constructor
      · exact fun hb => ⟨a, rfl, hb⟩
      · rintro ⟨a', ha, hb⟩
        cases ha
        exact hb

variable {python}

theorem exists_int_ok {value : Value} :
    (∃ n, python.int value = .ok n) ↔ value.Converts python := by
  cases value with
  | null => exact iff_of_false (fun ⟨_, hn⟩ => by cases hn) id
  | bool b => exact iff_of_true ⟨_, rfl⟩ trivial
  | int n => exact iff_of_true ⟨_, rfl⟩ trivial
  | float whole => rfl
  | str s =>
      rw [Python.int, Value.Converts]
      cases python.intOfText s with
      | none => exact iff_of_false (fun ⟨_, hn⟩ => by cases hn) Bool.false_ne_true
      | some n => exact iff_of_true ⟨n, rfl⟩ rfl
  | array items => exact iff_of_false (fun ⟨_, hn⟩ => by cases hn) id
  | object fields => exact iff_of_false (fun ⟨_, hn⟩ => by cases hn) id

theorem exists_readField_ok {fields : List (Text × Value)} {name : String} :
    (∃ n, readField python fields name = .ok n) ↔ FieldConverts python fields name := by
  rw [readField, FieldConverts]
  cases fields.lookup (text name) with
  | none => exact iff_of_true ⟨none, rfl⟩ fun value hvalue => by cases hvalue
  | some value =>
      have hmap : (∃ n, (python.int value).map some = .ok n) ↔ ∃ n, python.int value = .ok n := by
        cases python.int value with
        | error e => exact iff_of_false (fun ⟨_, hn⟩ => by cases hn) (fun ⟨_, hn⟩ => by cases hn)
        | ok n => exact iff_of_true ⟨_, rfl⟩ ⟨_, rfl⟩
      rw [hmap, exists_int_ok]
      constructor
      · rintro hconverts _ ⟨⟩
        exact hconverts
      · exact fun hconverts => hconverts value rfl

/-- An event has one type. -/
theorem text_eq_of_hasType {fields : List (Text × Value)} {name other : String}
    (hname : hasType fields name = true) (hother : hasType fields other = true) :
    text name = text other := by
  rw [hasType] at hname hother
  split at hname
  next s htype =>
    rw [htype] at hother
    exact (beq_iff_eq.mp hname).symm.trans (beq_iff_eq.mp hother)
  next => cases hname

/-- An event can be read just if it is acceptable. -/
theorem exists_readEvent_ok {evt : Value} :
    (∃ event, readEvent python evt = .ok event) ↔ evt.Acceptable python := by
  cases evt with
  | object fields =>
      rw [readEvent, Value.Acceptable, exists_bind_ok, ← exists_readField_ok]
      cases hslot : readField python fields "slot" with
      | error e =>
          exact iff_of_false (fun ⟨_, hn, _⟩ => by cases hn) fun ⟨⟨_, hn⟩, _⟩ => by cases hn
      | ok slot =>
          have hplace : slotOf? python fields = slotOfInt? (slot.getD 0) := by
            rw [slotOf?, hslot]
            rfl
          have hhead (P : Option Int → Prop) :
              (∃ a, (Except.ok slot : Except Raised (Option Int)) = .ok a ∧ P a) ↔ P slot := by
            constructor
            · rintro ⟨a, ha, hP⟩
              cases ha
              exact hP
            · exact fun hP => ⟨slot, rfl, hP⟩
          rw [hhead, hplace, and_iff_right ⟨slot, rfl⟩]
          cases slotOfInt? (slot.getD 0) with
          | none => exact iff_of_true ⟨none, rfl⟩ fun hsome => by cases hsome
          | some place =>
              dsimp only
              split_ifs with hconnected hdisconnected hinput
              · refine iff_of_true ⟨_, rfl⟩ fun _ hinput => ?_
                exact absurd (text_eq_of_hasType hconnected hinput) (by decide)
              · refine iff_of_true ⟨_, rfl⟩ fun _ hinput => ?_
                exact absurd (text_eq_of_hasType hdisconnected hinput) (by decide)
              · simp only [List.forall_mem_cons, ← exists_readField_ok, exists_bind_ok]
                constructor
                · rintro ⟨_, hbuttons, _, hlt, _, hrt, _, hlx, _, hly, _, hrx, _, hry, -⟩ - -
                  exact ⟨⟨_, hbuttons⟩, ⟨_, hlt⟩, ⟨_, hrt⟩, ⟨_, hlx⟩, ⟨_, hly⟩, ⟨_, hrx⟩, ⟨_, hry⟩,
                    fun name hname => absurd hname List.not_mem_nil⟩
                · intro hall
                  obtain
                    ⟨⟨_, hbuttons⟩, ⟨_, hlt⟩, ⟨_, hrt⟩, ⟨_, hlx⟩, ⟨_, hly⟩, ⟨_, hrx⟩, ⟨_, hry⟩, -⟩ :=
                    hall rfl hinput
                  exact ⟨_, hbuttons, _, hlt, _, hrt, _, hlx, _, hly, _, hrx, _, hry, _, rfl⟩
              · exact iff_of_true ⟨_, rfl⟩ fun _ hinput' => absurd hinput' hinput
  | _ => exact iff_of_false (fun ⟨_, hn⟩ => by cases hn) id

/-! ## What is applied -/

variable (python)

/-- A line that is acceptable has its event applied, if it has one. Any other one raises. -/
theorem applyLine_cases {app : App Time} (hw : app.wizard.WellFormed) (readings : Readings Time)
    (line : List Char) :
    let next := (lineEvent? python line).elim app fun event =>
      (app.applyEvent clock readings.now readings.judged event).getD app
    next.wizard.WellFormed ∧
      (LineAcceptable python line ∧ app.applyLine python clock readings line = .ok next ∨
        ¬LineAcceptable python line ∧
          ∃ error, app.applyLine python clock readings line = .error error) := by
  intro next
  have hnext : next.wizard.WellFormed := by
    simp only [next]
    cases lineEvent? python line with
    | none => exact hw
    | some event =>
        obtain ⟨after, hafter, hwell⟩ :=
          applyEvent_wellFormed clock hw readings.now readings.judged event
        rw [Option.elim_some, hafter]
        exact hwell
  refine ⟨hnext, ?_⟩
  simp only [next, lineEvent?, LineAcceptable, App.applyLine]
  cases python.loads line with
  | malformed => exact Or.inl ⟨trivial, rfl⟩
  | raised error => exact Or.inr ⟨id, error, rfl⟩
  | value evt =>
      cases hread : readEvent python evt with
      | error error =>
          refine Or.inr ⟨?_, error, ?_⟩
          · intro hacceptable
            obtain ⟨event, hevent⟩ := exists_readEvent_ok.mpr hacceptable
            rw [hread] at hevent
            cases hevent
          · simp only [App.applyJson, hread]
            rfl
      | ok event? =>
          refine Or.inl ⟨exists_readEvent_ok.mp ⟨event?, hread⟩, ?_⟩
          cases event? with
          | none =>
              simp only [App.applyJson, hread]
              rfl
          | some event =>
              obtain ⟨after, hafter, -⟩ :=
                applyEvent_wellFormed clock hw readings.now readings.judged event
              have happlied : app.applyJson python clock readings.now readings.judged evt =
                  .ok after := by
                have helim : (app.applyEvent clock readings.now readings.judged event).elim
                    (Except.error Raised.indexError) Except.ok = .ok after := by rw [hafter]; rfl
                rw [App.applyJson, hread]
                exact helim
              simp only [happlied, hread, Except.toOption, Option.join_some, Option.elim_some, hafter,
                Option.getD_some]

/-- The lines are applied just if all of them are acceptable. -/
theorem applyLines_cases {app : App Time} (hw : app.wizard.WellFormed)
    (readings : Nat → Readings Time) (lines : List (List Char)) :
    (∀ line ∈ lines, LineAcceptable python line) ∧
        app.applyLines python clock readings lines =
          .ok (app.applyGood python clock readings lines) ∨
      ¬(∀ line ∈ lines, LineAcceptable python line) ∧
        ∃ error, app.applyLines python clock readings lines = .error error := by
  induction lines generalizing app readings with
  | nil => exact Or.inl ⟨fun line hline => absurd hline List.not_mem_nil, rfl⟩
  | cons line rest ih =>
      obtain ⟨hnext, hcases⟩ := applyLine_cases python clock hw (readings 0) line
      rw [App.applyLines, App.applyGood, List.forall_mem_cons]
      rcases hcases with ⟨hline, happlied⟩ | ⟨hline, error, hraised⟩
      · rw [happlied]
        rcases ih hnext (fun n => readings (n + 1)) with ⟨hrest, hdone⟩ | ⟨hrest, error, hraised⟩
        · exact Or.inl ⟨⟨hline, hrest⟩, hdone⟩
        · exact Or.inr ⟨fun hall => hrest hall.2, error, hraised⟩
      · rw [hraised]
        exact Or.inr ⟨fun hall => hline hall.1, error, rfl⟩

/-- A datagram is handled just if every line is no JSON or an acceptable object, whatever the
mapper has seen before. -/
theorem handles_iff (logPath : String) (inputs : List (Input Time))
    (readings : Nat → Readings Time) (data : List UInt8) :
    (run (App.step clock) (App.init clock logPath) inputs).Handles python clock readings data ↔
      ∀ line ∈ datagramLines data, LineAcceptable python line := by
  have hw : (run (App.step clock) (App.init clock logPath) inputs).wizard.WellFormed :=
    Machine.run_invariant (fun app : App Time => app.wizard.WellFormed)
      (fun _ input hw => step_wellFormed clock hw input) (wellFormed_init clock false 0) inputs
  rw [App.Handles, App.pollUdp]
  rcases applyLines_cases python clock hw readings (datagramLines data) with
    ⟨hall, hdone⟩ | ⟨hall, error, hraised⟩
  · exact iff_of_true ⟨_, hdone, rfl, rfl⟩ hall
  · refine iff_of_false ?_ hall
    rintro ⟨after, hafter, -⟩
    rw [hraised] at hafter
    cases hafter

end

/-! ## Lines that end the program -/

def arrayLine : List Char := "[]".toList

def nullSlotLine : List Char := "\x7b\"slot\":null\x7d".toList

def connectedLine : List Char := "\x7b\"type\":\"connected\",\"slot\":0\x7d".toList

/-- A library that knows the three lines. -/
def threeLines : Python where
  loads line :=
    if line = arrayLine then .value (.array [])
    else if line = nullSlotLine then .value (.object [(text "slot", .null)])
    else if line = connectedLine then
      .value (.object [(text "type", .str (text "connected")), (text "slot", .int 0)])
    else .malformed
  intOfText _ := none

/-- The lines as the bytes of a datagram. -/
def datagram (lines : List (List Char)) : List UInt8 :=
  lines.flatMap fun line => line.map (fun c => UInt8.ofNat c.toNat) ++ [0x0a]

/-- A list, or an object without a number for its slot, and the connection behind it is lost. -/
theorem bad_lines_raise :
    (App.init millis "").pollUdp threeLines millis (fun _ => ⟨0, 0⟩)
        (datagram [arrayLine, connectedLine]) = .error .attributeError ∧
      (App.init millis "").pollUdp threeLines millis (fun _ => ⟨0, 0⟩)
        (datagram [nullSlotLine, connectedLine]) = .error .typeError ∧
      ¬(App.init millis "").Handles threeLines millis (fun _ => ⟨0, 0⟩)
        (datagram [arrayLine, connectedLine]) := by
  have harray : datagramLines (datagram [arrayLine, connectedLine]) = [arrayLine, connectedLine] := by
    decide +kernel
  have hnull : datagramLines (datagram [nullSlotLine, connectedLine]) =
      [nullSlotLine, connectedLine] := by
    decide +kernel
  have hraised : (App.init millis "").pollUdp threeLines millis (fun _ => ⟨0, 0⟩)
      (datagram [arrayLine, connectedLine]) = .error .attributeError := by
    rw [App.pollUdp, harray]
    rfl
  refine ⟨hraised, ?_, ?_⟩
  · rw [App.pollUdp, hnull]
    rfl
  · rintro ⟨after, hafter, -⟩
    rw [hraised] at hafter
    cases hafter

end XoneDarwin.Mapper
