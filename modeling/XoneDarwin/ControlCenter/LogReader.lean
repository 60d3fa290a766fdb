import XoneDarwin.Machine.Lines
import XoneDarwin.Machine.Utf8
import Mathlib.Data.Finset.Card
import Mathlib.Data.Finset.Insert

/-!
# The control app's log reader

The app polls the daemon's log, takes what is new as one chunk of text and follows the
connect and disconnect lines in it. A chunk that ends inside a line gives two lines, a
chunk that ends inside a character gives none.

A `Character` is one scalar here, and a search finds a needle wherever its scalars stand: no text
that the daemon prints has a scalar that joins the one before it. The paths that the app quotes may
have some, so `Quoting` asks which scalars join.
-/

namespace XoneDarwin.ControlCenter

open Lines Utf8

/-! ## Text -/

/-- `Character.isNewline`, and the characters of `CharacterSet.newlines`. -/
def isNewline (c : Char) : Bool :=
  [0x0a, 0x0b, 0x0c, 0x0d, 0x85, 0x2028, 0x2029].contains c.toNat

/-- What follows the first occurrence of a text in another. -/
def suffixAfter (pattern : List Char) : List Char → Option (List Char)
  | [] => if pattern = [] then some [] else none
  | c :: text =>
      if pattern <+: c :: text then some ((c :: text).drop pattern.length)
      else suffixAfter pattern text

def contains (line : List Char) (pattern : String) : Bool :=
  (suffixAfter pattern.toList line).isSome

/-- `Int(digits)`: decimal digits that fit. -/
def int? (digits : List Char) : Option Int :=
  let value : Nat := digits.foldl (fun value c => value * 10 + (c.toNat - 0x30)) 0
  if digits ≠ [] ∧ digits.all Char.isDigit ∧ value ≤ 0x7fffffffffffffff then some value else none

def trimmingNewlines (text : List Char) : List Char :=
  ((text.dropWhile isNewline).reverse.dropWhile isNewline).reverse

/-! ## The view model -/

structure ViewModel where
  daemonLogText : List Char
  daemonLogVersion : Nat
  daemonLogOffset : Nat
  connectedSlots : Finset Int
  connectedControllerCount : Nat
  /-- The lines parsed so far. The app does not keep them. -/
  parsed : List (List Char)

def ViewModel.init : ViewModel where
  daemonLogText := []
  daemonLogVersion := 0
  daemonLogOffset := 0
  connectedSlots := ∅
  connectedControllerCount := 0
  parsed := []

def appendDaemonLog (text : List Char) (app : ViewModel) : ViewModel :=
  if text = [] then app
  else
    let daemonLogText :=
      if app.daemonLogText = [] then text else app.daemonLogText ++ '\n' :: text
    let kept := lines isNewline daemonLogText
    { app with
      daemonLogText :=
        if kept.length > 1200 then ['\n'].intercalate (kept.drop (kept.length - 1200))
        else daemonLogText
      daemonLogVersion := app.daemonLogVersion + 1 }

section Parsing

-- `Character.isNumber` is a table of Unicode.
variable (isNumber : Char → Bool)

def extractSlot (text : List Char) : Option Int :=
  (suffixAfter "\"slot\":".toList text).bind fun suffix => int? (suffix.takeWhile isNumber)

def extractTrailingNumber (text : List Char) : Option Int :=
  let digits := text.reverse.takeWhile isNumber
  if digits = [] then none else int? digits.reverse

def parseControllerActivity (app : ViewModel) (line : List Char) : ViewModel :=
  let connectedSlots :=
    if contains line "\"type\":\"connected\"" then
      (extractSlot isNumber line).elim app.connectedSlots (insert · app.connectedSlots)
    else if contains line "\"type\":\"disconnected\"" then
      (extractSlot isNumber line).elim app.connectedSlots app.connectedSlots.erase
    else if contains line "Controller CONNECTED" then
      (extractTrailingNumber isNumber line).elim app.connectedSlots (insert · app.connectedSlots)
    else if contains line "Controller DISCONNECTED" then
      (extractTrailingNumber isNumber line).elim app.connectedSlots app.connectedSlots.erase
    else app.connectedSlots
  { app with
    connectedSlots
    connectedControllerCount := connectedSlots.card
    parsed := app.parsed ++ [line] }

def consumeLines (chunk : List Char) (app : ViewModel) : ViewModel :=
  (lines isNewline chunk).foldl (parseControllerActivity isNumber) app

/-- One poll, with what the log file holds, if it can be opened. -/
def pollDaemonLog (app : ViewModel) : Option (List UInt8) → ViewModel
  | none => app
  | some content =>
      let data := content.drop app.daemonLogOffset
      if data = [] then app
      else
        let app := { app with daemonLogOffset := app.daemonLogOffset + data.length }
        match decode? data with
        | none => app
        | some chunk => consumeLines isNumber chunk (appendDaemonLog (trimmingNewlines chunk) app)

/-- The polls of one tail task. -/
def startTailingDaemonLog (app : ViewModel) (polls : List (Option (List UInt8))) : ViewModel :=
  polls.foldl (pollDaemonLog isNumber) { app with daemonLogOffset := 0 }

end Parsing

/-! ## Reading a log in pieces -/

/-- What the file holds at each poll, if every poll finds one more piece of the log. -/
def growth (before : List UInt8) : List (List UInt8) → List (Option (List UInt8))
  | [] => []
  | read :: reads => some (before ++ read) :: growth (before ++ read) reads

/-- The lines of one read. -/
def readLines (read : List UInt8) : List (List Char) :=
  (decode? read).elim [] (lines isNewline)

/-- Two view models know the same of the controllers, from the same lines. -/
structure ViewModel.Agree (app other : ViewModel) : Prop where
  connectedSlots : app.connectedSlots = other.connectedSlots
  connectedControllerCount : app.connectedControllerCount = other.connectedControllerCount
  parsed : app.parsed = other.parsed

variable {isNumber : Char → Bool} {app other : ViewModel}

namespace ViewModel.Agree

theorem refl (app : ViewModel) : Agree app app :=
  ⟨rfl, rfl, rfl⟩

theorem symm (hagree : Agree app other) : Agree other app :=
  ⟨hagree.connectedSlots.symm, hagree.connectedControllerCount.symm, hagree.parsed.symm⟩

theorem trans {third : ViewModel} (hfirst : Agree app other) (hsecond : Agree other third) :
    Agree app third :=
  ⟨hfirst.connectedSlots.trans hsecond.connectedSlots,
    hfirst.connectedControllerCount.trans hsecond.connectedControllerCount,
    hfirst.parsed.trans hsecond.parsed⟩

theorem parseControllerActivity (hagree : Agree app other) (line : List Char) :
    Agree (parseControllerActivity isNumber app line)
      (parseControllerActivity isNumber other line) := by
  constructor
  · simp only [ControlCenter.parseControllerActivity, hagree.connectedSlots]
  · simp only [ControlCenter.parseControllerActivity, hagree.connectedSlots]
  · simp only [ControlCenter.parseControllerActivity, hagree.parsed]

theorem foldl (hagree : Agree app other) (text : List (List Char)) :
    Agree (text.foldl (ControlCenter.parseControllerActivity isNumber) app)
      (text.foldl (ControlCenter.parseControllerActivity isNumber) other) := by
  induction text generalizing app other with
  | nil => exact hagree
  | cons line text ih => exact ih (hagree.parseControllerActivity line)

end ViewModel.Agree

open ViewModel (Agree)

theorem foldl_daemonLogOffset (text : List (List Char)) :
    (text.foldl (parseControllerActivity isNumber) app).daemonLogOffset = app.daemonLogOffset := by
  induction text generalizing app with
  | nil => rfl
  | cons line text ih => exact ih

theorem foldl_parsed (text : List (List Char)) :
    (text.foldl (parseControllerActivity isNumber) app).parsed = app.parsed ++ text := by
  induction text generalizing app with
  | nil => simp
  | cons line text ih =>
      rw [List.foldl_cons, ih]
      simp [parseControllerActivity]

@[simp] theorem appendDaemonLog_daemonLogOffset (text : List Char) :
    (appendDaemonLog text app).daemonLogOffset = app.daemonLogOffset := by
  rw [appendDaemonLog]
  split
  · rfl
  · rfl

theorem agree_appendDaemonLog (text : List Char) : Agree (appendDaemonLog text app) app := by
  rw [appendDaemonLog]
  split
  · exact Agree.refl app
  · exact ⟨rfl, rfl, rfl⟩

/-- A poll parses the lines of what it reads, and takes it as read. -/
theorem pollDaemonLog_append (before read : List UInt8)
    (hoffset : app.daemonLogOffset = before.length) :
    (pollDaemonLog isNumber app (some (before ++ read))).daemonLogOffset =
        (before ++ read).length ∧
      Agree (pollDaemonLog isNumber app (some (before ++ read)))
        ((readLines read).foldl (parseControllerActivity isNumber) app) := by
  rw [pollDaemonLog, hoffset, List.drop_left]
  by_cases hempty : read = []
  · simp only [hempty, if_true, List.append_nil]
    exact ⟨hoffset, Agree.refl app⟩
  · simp only [hempty, if_false]
    cases hdecode : decode? read with
    | none =>
        rw [readLines, hdecode]
        exact ⟨List.length_append.symm, ⟨rfl, rfl, rfl⟩⟩
    | some chunk =>
        rw [readLines, hdecode]
        simp only [consumeLines, Option.elim_some]
        constructor
        · rw [foldl_daemonLogOffset, appendDaemonLog_daemonLogOffset, List.length_append]
        · refine Agree.foldl ?_ _
          exact (agree_appendDaemonLog _).trans ⟨rfl, rfl, rfl⟩

theorem poll_growth (before : List UInt8) (reads : List (List UInt8))
    (hoffset : app.daemonLogOffset = before.length) :
    Agree ((growth before reads).foldl (pollDaemonLog isNumber) app)
      ((reads.flatMap readLines).foldl (parseControllerActivity isNumber) app) := by
  induction reads generalizing before app with
  | nil => exact Agree.refl app
  | cons read reads ih =>
      obtain ⟨hnext, hagree⟩ := @pollDaemonLog_append isNumber app before read hoffset
      rw [growth, List.foldl_cons, List.flatMap_cons, List.foldl_append]
      exact (ih (before ++ read) hnext).trans (hagree.foldl _)

theorem startTailingDaemonLog_growth (reads : List (List UInt8)) :
    Agree (startTailingDaemonLog isNumber app (growth [] reads))
      ((reads.flatMap readLines).foldl (parseControllerActivity isNumber)
        { app with daemonLogOffset := 0 }) :=
  poll_growth [] reads rfl

/-- In pieces and at once the same is known exactly if the same lines are parsed. -/
theorem agree_iff_readLines (reads : List (List UInt8)) :
    Agree (startTailingDaemonLog isNumber app (growth [] reads))
        (startTailingDaemonLog isNumber app [some reads.flatten]) ↔
      reads.flatMap readLines = readLines reads.flatten := by
  have hpieces := @startTailingDaemonLog_growth isNumber app reads
  have honce := @startTailingDaemonLog_growth isNumber app [reads.flatten]
  rw [List.flatMap_singleton] at honce
  constructor
  · intro hagree
    have hparsed := (hpieces.symm.trans (hagree.trans honce)).parsed
    rw [foldl_parsed, foldl_parsed] at hparsed
    exact List.append_cancel_left hparsed
  · intro hsame
    rw [hsame] at hpieces
    exact hpieces.trans honce.symm

/-! ## Bytes of lines -/

/-- For each byte of the text, whether it belongs to a line. -/
def lineBytes (text : List Char) : List Bool :=
  text.flatMap fun c => (String.utf8EncodeChar c).map fun _ => !isNewline c

/-- No read ends inside a line, and a read with a part of a line consists of whole characters. -/
structure WholeLines (text : List Char) (reads : List (List UInt8)) : Prop where
  lines : ∀ before after, reads = before ++ after →
    cuts (!·) ((lineBytes text).take before.flatten.length)
      ((lineBytes text).drop before.flatten.length) = false
  characters : ∀ before read after, reads = before ++ read :: after →
    true ∈ ((lineBytes text).drop before.flatten.length).take read.length →
    ∃ part, read = encode part

/-- Every byte of the text, with whether it belongs to a line. -/
def markedBytes (text : List Char) : List (UInt8 × Bool) :=
  text.flatMap fun c => (String.utf8EncodeChar c).map fun b => (b, !isNewline c)

@[simp] theorem markedBytes_append (first second : List Char) :
    markedBytes (first ++ second) = markedBytes first ++ markedBytes second :=
  List.flatMap_append

theorem map_fst_markedBytes (text : List Char) : (markedBytes text).map Prod.fst = encode text := by
  simp [markedBytes, encode, List.map_flatMap, Function.comp_def]

theorem map_snd_markedBytes (text : List Char) :
    (markedBytes text).map Prod.snd = lineBytes text := by
  simp [markedBytes, lineBytes, List.map_flatMap, Function.comp_def]

theorem markedBytes_injective : Function.Injective markedBytes := by
  intro first second hsame
  have hbytes := congrArg (List.map Prod.fst) hsame
  rw [map_fst_markedBytes, map_fst_markedBytes] at hbytes
  exact encode_injective hbytes

theorem lines_markedBytes (text : List Char) :
    lines (fun mark => !mark.2) (markedBytes text) = (lines isNewline text).map markedBytes := by
  refine lines_flatMap ?_ ?_ text
  · intro c
    simp [String.utf8EncodeChar_ne_nil]
  · intro c mark hmem
    obtain ⟨b, -, rfl⟩ := List.mem_map.mp hmem
    exact Bool.not_not _

/-- A valid read has the marks of its own text. -/
theorem eq_markedBytes {text part : List Char} {before piece after : List (UInt8 × Bool)}
    (hsplit : markedBytes text = before ++ (piece ++ after))
    (hpart : piece.map Prod.fst = encode part) : piece = markedBytes part := by
  by_cases hempty : part = []
  · rw [hempty, encode_nil, List.map_eq_nil_iff] at hpart
    rw [hempty, hpart]
    rfl
  · have hbytes := congrArg (List.map Prod.fst) hsplit
    rw [map_fst_markedBytes, List.map_append, List.map_append, hpart] at hbytes
    obtain ⟨front, rest, rfl, hfront, -⟩ := exists_of_encode_eq hempty hbytes
    rw [markedBytes_append, markedBytes_append] at hsplit
    have hlength (marks : List (UInt8 × Bool)) (chars : List Char)
        (hmarks : marks.map Prod.fst = encode chars) :
        (markedBytes chars).length = marks.length := by
      rw [← map_fst_markedBytes] at hmarks
      simpa using congrArg List.length hmarks.symm
    have htail := List.append_inj_right hsplit (hlength before front hfront)
    exact (List.append_inj_left htail (hlength piece part hpart)).symm

/-! ## Which divisions keep the lines -/

section Pieces

variable {text : List Char} {pieces : List (List (UInt8 × Bool))}

/-- The bytes a piece is read as. -/
def bytesOf (piece : List (UInt8 × Bool)) : List UInt8 :=
  piece.map Prod.fst

theorem length_flatten_bytesOf (before : List (List (UInt8 × Bool))) :
    (before.map bytesOf).flatten.length = (before.flatten.map Prod.snd).length := by
  rw [show bytesOf = List.map Prod.fst from rfl, ← List.map_flatten, List.length_map,
    List.length_map]

theorem lineBytes_eq {before after : List (List (UInt8 × Bool))}
    (hpieces : (before ++ after).flatten = markedBytes text) :
    lineBytes text = before.flatten.map Prod.snd ++ after.flatten.map Prod.snd := by
  rw [← map_snd_markedBytes, ← hpieces, List.flatten_append, List.map_append]

theorem uncut_iff (hpieces : pieces.flatten = markedBytes text) :
    (∀ before after, pieces.map bytesOf = before ++ after →
        cuts (!·) ((lineBytes text).take before.flatten.length)
          ((lineBytes text).drop before.flatten.length) = false) ↔
      Uncut (fun mark => !mark.2) pieces := by
  have hcuts (before after : List (List (UInt8 × Bool))) (hsplit : pieces = before ++ after) :
      cuts (!·) ((lineBytes text).take (before.map bytesOf).flatten.length)
          ((lineBytes text).drop (before.map bytesOf).flatten.length) =
        cuts (fun mark => !mark.2) before.flatten after.flatten := by
    rw [lineBytes_eq (hsplit ▸ hpieces), length_flatten_bytesOf, List.take_left, List.drop_left,
      cuts_map]
  constructor
  · intro hall before after hsplit
    rw [← hcuts before after hsplit]
    exact hall _ _ (by rw [hsplit, List.map_append])
  · intro huncut before after hsplit
    obtain ⟨first, second, hpieces, rfl, rfl⟩ := List.map_eq_append_iff.mp hsplit
    rw [hcuts first second hpieces]
    exact huncut first second hpieces

theorem dropped_iff (hpieces : pieces.flatten = markedBytes text) :
    (∀ before read after, pieces.map bytesOf = before ++ read :: after →
        true ∈ ((lineBytes text).drop before.flatten.length).take read.length →
        ∃ part, read = encode part) ↔
      ∀ piece ∈ pieces, (decode? (bytesOf piece)).isSome = false →
        lines (fun mark => !mark.2) piece = [] := by
  have hmarks (before : List (List (UInt8 × Bool))) (piece) (after)
      (hsplit : pieces = before ++ piece :: after) :
      ((lineBytes text).drop (before.map bytesOf).flatten.length).take (bytesOf piece).length =
        piece.map Prod.snd := by
    have hlength : (bytesOf piece).length = (piece.map Prod.snd).length := by simp [bytesOf]
    rw [lineBytes_eq (hsplit ▸ hpieces), length_flatten_bytesOf, List.drop_left,
      List.flatten_cons, List.map_append, hlength, List.take_left]
  constructor
  · intro hall piece hmem hdropped
    obtain ⟨before, after, hsplit⟩ := List.append_of_mem hmem
    rw [lines_eq_nil_iff]
    intro mark hmark
    cases hline : mark.2 with
    | false => rfl
    | true =>
        obtain ⟨part, hpart⟩ := hall (before.map bytesOf) (bytesOf piece) (after.map bytesOf)
          (by rw [hsplit, List.map_append, List.map_cons])
          (by rw [hmarks before piece after hsplit]; exact List.mem_map.mpr ⟨mark, hmark, hline⟩)
        rw [hpart, decode?_encode] at hdropped
        contradiction
  · intro hall before read after hsplit hline
    obtain ⟨first, second, hpieces, rfl, hsecond⟩ := List.map_eq_append_iff.mp hsplit
    obtain ⟨piece, rest, rfl, rfl, rfl⟩ := List.map_eq_cons_iff.mp hsecond
    rw [hmarks first piece rest hpieces] at hline
    obtain ⟨mark, hmark, htrue⟩ := List.mem_map.mp hline
    cases hdecode : decode? (bytesOf piece) with
    | some part => exact ⟨part, decode?_eq_some_iff.mp hdecode⟩
    | none =>
        have hlines := hall piece (by simp [hpieces]) (by rw [hdecode]; rfl)
        have hend := (lines_eq_nil_iff piece).mp hlines mark hmark
        rw [htrue] at hend
        contradiction

/-- The lines of the reads are those of the marked bytes that are not dropped. -/
theorem map_readLines (hpieces : pieces.flatten = markedBytes text) :
    ((pieces.map bytesOf).flatMap readLines).map markedBytes =
      keptLines (fun mark => !mark.2) (fun piece => (decode? (bytesOf piece)).isSome) pieces := by
  rw [List.flatMap_map, List.map_flatMap, keptLines]
  refine List.flatMap_congr fun piece hmem => ?_
  cases hdecode : decode? (bytesOf piece) with
  | none => simp [readLines, hdecode]
  | some part =>
      obtain ⟨before, after, rfl⟩ := List.append_of_mem hmem
      rw [List.flatten_append, List.flatten_cons] at hpieces
      have hpart := eq_markedBytes hpieces.symm (decode?_eq_some_iff.mp hdecode)
      rw [readLines, hdecode, Option.elim_some, ← lines_markedBytes, ← hpart]
      rfl

end Pieces

/-- A read loses a line of a text only by cutting it or by cutting a character beside it. -/
theorem flatMap_readLines_iff {text : List Char} {reads : List (List UInt8)}
    (htext : reads.flatten = encode text) :
    reads.flatMap readLines = lines isNewline text ↔ WholeLines text reads := by
  obtain ⟨pieces, hpieces, rfl⟩ := exists_pieces
    ((map_fst_markedBytes text).trans htext.symm)
  have hinjective : Function.Injective (List.map markedBytes) :=
    List.map_injective_iff.mpr markedBytes_injective
  have hkept := keptLines_eq_iff (fun mark : UInt8 × Bool => !mark.2)
    (fun piece => (decode? (bytesOf piece)).isSome) pieces
  rw [← map_readLines hpieces, hpieces, lines_markedBytes, hinjective.eq_iff] at hkept
  refine hkept.trans ⟨fun ⟨hdropped, huncut⟩ => ?_, fun hwhole => ?_⟩
  · exact ⟨(uncut_iff hpieces).mpr huncut, (dropped_iff hpieces).mpr hdropped⟩
  · exact ⟨(dropped_iff hpieces).mp hwhole.characters, (uncut_iff hpieces).mp hwhole.lines⟩

theorem readLines_eq_nil_iff (read : List UInt8) :
    readLines read = [] ↔ ∀ part, read = encode part → ∀ c ∈ part, isNewline c = true := by
  rw [readLines]
  cases hdecode : decode? read with
  | none =>
      refine iff_of_true rfl fun part hpart => ?_
      rw [hpart, decode?_encode] at hdecode
      contradiction
  | some text =>
      obtain rfl := decode?_eq_some_iff.mp hdecode
      rw [Option.elim_some, lines_eq_nil_iff]
      constructor
      · intro hall part hpart
        rwa [← encode_injective hpart]
      · intro hall
        exact hall text rfl

/-- The division keeps the lines of a log that is a text. Of any other log nothing is read at
once, and nothing in pieces if none of the pieces that are texts has a line. -/
def KeepsLines (reads : List (List UInt8)) : Prop :=
  match decode? reads.flatten with
  | some text => WholeLines text reads
  | none => ∀ read ∈ reads, ∀ part, read = encode part → ∀ c ∈ part, isNewline c = true

/-- Reads that all end with the end of a line keep the lines. -/
theorem keepsLines_of_complete (texts : List (List Char)) :
    KeepsLines (texts.map fun text => encode (text ++ ['\n'])) := by
  have htext : (texts.map fun text => encode (text ++ ['\n'])).flatten =
      encode (texts.flatMap fun text => text ++ ['\n']) := by
    induction texts with
    | nil => rfl
    | cons text texts ih =>
        rw [List.map_cons, List.flatten_cons, ih, List.flatMap_cons, ← encode_append]
  have hlines : (texts.map fun text => encode (text ++ ['\n'])).flatMap readLines =
      lines isNewline (texts.flatMap fun text => text ++ ['\n']) := by
    clear htext
    induction texts with
    | nil => rfl
    | cons text texts ih =>
        have hone : lines isNewline (text ++ ['\n']) = lines isNewline text := by
          rw [lines_append_cons text [] (by decide), lines_nil, List.append_nil]
        rw [List.map_cons, List.flatMap_cons, ih, List.flatMap_cons, List.append_assoc,
          List.singleton_append, lines_append_cons _ _ (by decide), readLines, decode?_encode,
          Option.elim_some, hone]
  rw [KeepsLines, htext, decode?_encode]
  exact (flatMap_readLines_iff htext).mp hlines

/-- However the log is divided, in pieces the app learns the same of the controllers, from the
same lines, as at once exactly if the division keeps the lines. -/
theorem pieces_agree_iff (isNumber : Char → Bool) (app : ViewModel) (reads : List (List UInt8)) :
    Agree (startTailingDaemonLog isNumber app (growth [] reads))
        (startTailingDaemonLog isNumber app [some reads.flatten]) ↔
      KeepsLines reads := by
  rw [agree_iff_readLines, KeepsLines, readLines]
  cases hdecode : decode? reads.flatten with
  | some text => exact flatMap_readLines_iff (decode?_eq_some_iff.mp hdecode)
  | none =>
      rw [Option.elim_none, List.flatMap_eq_nil_iff]
      exact forall₂_congr fun read _ => readLines_eq_nil_iff read

/-- A log with one line of the daemon, read once inside its arrow. -/
def arrowCut : List (List UInt8) :=
  let line := encode "[gip]  Controller CONNECTED → slot 3\n".toList
  [line.take 29, line.drop 29]

theorem arrow_cut_loses_slot :
    (startTailingDaemonLog Char.isDigit ViewModel.init (growth [] arrowCut)).connectedSlots ≠
      (startTailingDaemonLog Char.isDigit ViewModel.init
        [some arrowCut.flatten]).connectedSlots := by
  decide +kernel

end XoneDarwin.ControlCenter
