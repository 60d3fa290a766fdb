import Mathlib.Data.List.DropRight

/-!
# Lines read in pieces

A text is cut into lines at some of its elements, and it is read in pieces, some of
which are dropped. The lines of the pieces are the lines of the text exactly if no
piece with a part of a line is dropped and no piece ends inside a line.
-/

namespace Lines

variable {α β : Type*} (isEnd : α → Bool)

/-- The non-empty lines of a text. -/
def lines (text : List α) : List (List α) :=
  (text.splitOnP isEnd).filter fun line => !line.isEmpty

/-- The text starts with a line. -/
def starts (text : List α) : Bool :=
  text.head?.any fun a => !isEnd a

/-- The text ends with a line. -/
def ends (text : List α) : Bool :=
  text.getLast?.any fun a => !isEnd a

/-- A line goes on from one piece to the next. -/
def cuts (first second : List α) : Bool :=
  ends isEnd first && starts isEnd second

/-- The lines of the pieces that are not dropped. -/
def keptLines (kept : List α → Bool) (pieces : List (List α)) : List (List α) :=
  pieces.flatMap fun piece => if kept piece then lines isEnd piece else []

/-- No piece ends inside a line. -/
def Uncut (pieces : List (List α)) : Prop :=
  ∀ before after, pieces = before ++ after → cuts isEnd before.flatten after.flatten = false

variable {isEnd}

@[simp] theorem lines_nil : lines isEnd [] = [] := rfl

theorem lines_append_cons (first second : List α) {a : α} (ha : isEnd a = true) :
    lines isEnd (first ++ a :: second) = lines isEnd first ++ lines isEnd second := by
  rw [lines, List.splitOnP_append_cons first second ha, List.filter_append]
  rfl

theorem lines_cons_end {a : α} (ha : isEnd a = true) (text : List α) :
    lines isEnd (a :: text) = lines isEnd text :=
  lines_append_cons [] text ha

theorem lines_word {word : List α} (hne : word ≠ []) (hword : ∀ a ∈ word, isEnd a = false) :
    lines isEnd word = [word] := by
  rw [lines, List.splitOnP_eq_singleton hword]
  simp [hne]

/-- One more element of a line opens the line or is added to it. -/
theorem lines_cons_word {a : α} (ha : isEnd a = false) (text : List α) :
    (starts isEnd text = false ∧ lines isEnd (a :: text) = [a] :: lines isEnd text) ∨
      (starts isEnd text = true ∧ ∃ line rest, lines isEnd text = line :: rest ∧
        lines isEnd (a :: text) = (a :: line) :: rest) := by
  have hword : lines isEnd [a] = [[a]] := lines_word (by simp) (by simpa using ha)
  cases text with
  | nil => exact Or.inl ⟨rfl, hword⟩
  | cons b text =>
      cases hb : isEnd b with
      | true =>
          refine Or.inl ⟨by simp [starts, hb], ?_⟩
          have happend := lines_append_cons [a] text hb
          rw [hword] at happend
          rw [lines_cons_end hb]
          exact happend
      | false =>
          obtain ⟨line, rest, hsplit⟩ :=
            List.exists_cons_of_ne_nil (List.splitOnP_ne_nil isEnd text)
          refine Or.inr ⟨by simp [starts, hb], b :: line,
            rest.filter fun line => !line.isEmpty, ?_, ?_⟩
          · simp [lines, List.splitOnP_cons_eq_if_modifyHead, hb, hsplit]
          · simp [lines, List.splitOnP_cons_eq_if_modifyHead, ha, hb, hsplit]

/-- No element of a line gets lost. -/
theorem flatten_lines (text : List α) :
    (lines isEnd text).flatten = text.filter fun a => !isEnd a := by
  induction text with
  | nil => rfl
  | cons a text ih =>
      cases ha : isEnd a with
      | true => rw [lines_cons_end ha, ih, List.filter_cons_of_neg (by simp [ha])]
      | false =>
          rw [List.filter_cons_of_pos (by simp [ha]), ← ih]
          obtain ⟨-, hlines⟩ | ⟨-, line, rest, htext, hlines⟩ := lines_cons_word ha text
          · rw [hlines]
            rfl
          · rw [hlines, htext]
            rfl

theorem lines_eq_nil_iff (text : List α) :
    lines isEnd text = [] ↔ ∀ a ∈ text, isEnd a = true := by
  constructor
  · intro hnil a hmem
    have hfilter : (lines isEnd text).flatten = _ := flatten_lines text
    rw [hnil, List.flatten_nil, eq_comm, List.filter_eq_nil_iff] at hfilter
    simpa using hfilter a hmem
  · intro hends
    induction text with
    | nil => rfl
    | cons a text ih =>
        rw [lines_cons_end (hends a List.mem_cons_self)]
        exact ih fun b hb => hends b (List.mem_cons_of_mem a hb)

theorem length_lines_cons {a : α} (ha : isEnd a = false) (text : List α) :
    (lines isEnd (a :: text)).length = (lines isEnd text).length + (!starts isEnd text).toNat := by
  obtain ⟨hstarts, hlines⟩ | ⟨hstarts, line, rest, htext, hlines⟩ := lines_cons_word ha text
  · rw [hlines, hstarts]
    rfl
  · rw [hlines, htext, hstarts]
    rfl

/-! ## Two pieces -/

@[simp] theorem cuts_nil_left (second : List α) : cuts isEnd [] second = false := rfl

theorem cuts_singleton (a : α) (second : List α) :
    cuts isEnd [a] second = (!isEnd a && starts isEnd second) := rfl

theorem cuts_cons_cons (a b : α) (first second : List α) :
    cuts isEnd (a :: b :: first) second = cuts isEnd (b :: first) second := by
  simp [cuts, ends, List.getLast?_cons]

theorem cuts_append (first : List α) {second : List α} (hne : second ≠ []) (third : List α) :
    cuts isEnd (first ++ second) third = cuts isEnd second third := by
  rw [cuts, ends, List.getLast?_append_of_ne_nil first hne]
  rfl

theorem cuts_map (isEnd : β → Bool) (f : α → β) (first second : List α) :
    cuts isEnd (first.map f) (second.map f) = cuts (fun a => isEnd (f a)) first second := by
  simp [cuts, ends, starts, Option.any_map]

/-- A line that goes on is counted once in the text and twice in the pieces. -/
theorem length_lines_append (first second : List α) :
    (lines isEnd (first ++ second)).length + (cuts isEnd first second).toNat =
      (lines isEnd first).length + (lines isEnd second).length := by
  induction first with
  | nil => simp
  | cons a first ih =>
      cases first with
      | nil =>
          rw [List.cons_append, List.nil_append, cuts_singleton]
          cases ha : isEnd a with
          | true => simp [lines_cons_end ha]
          | false =>
              have hword : lines isEnd [a] = [[a]] := lines_word (by simp) (by simpa using ha)
              rw [length_lines_cons ha, hword]
              cases starts isEnd second
              · simp [Nat.add_comm]
              · simp [Nat.add_comm]
      | cons b first =>
          rw [cuts_cons_cons, List.cons_append]
          cases ha : isEnd a with
          | true => rw [lines_cons_end ha, lines_cons_end ha, ih]
          | false =>
              have hstarts : starts isEnd (b :: first ++ second) = starts isEnd (b :: first) := rfl
              rw [length_lines_cons ha, length_lines_cons ha, hstarts]
              omega

/-- Between two pieces the lines are kept if none of them goes on. -/
theorem lines_append {first second : List α} (hcuts : cuts isEnd first second = false) :
    lines isEnd (first ++ second) = lines isEnd first ++ lines isEnd second := by
  rw [cuts, Bool.and_eq_false_iff] at hcuts
  rcases hcuts with hends | hstarts
  · rcases List.eq_nil_or_concat first with rfl | ⟨first, a, rfl⟩
    · rfl
    · have ha : isEnd a = true := by simpa [ends] using hends
      have hfirst := lines_append_cons first [] ha
      rw [lines_nil, List.append_nil] at hfirst
      rw [List.concat_eq_append, List.append_assoc, List.singleton_append,
        lines_append_cons first second ha, hfirst]
  · cases second with
    | nil => simp
    | cons a second =>
        have ha : isEnd a = true := by simpa [starts] using hstarts
        rw [lines_append_cons first second ha, lines_cons_end ha]

/-! ## Any number of pieces -/

theorem uncut_nil : Uncut isEnd [] := by
  intro before after hpieces
  obtain ⟨rfl, rfl⟩ := List.append_eq_nil_iff.mp hpieces.symm
  rfl

theorem uncut_cons_iff (piece : List α) (pieces : List (List α)) :
    Uncut isEnd (piece :: pieces) ↔
      cuts isEnd piece pieces.flatten = false ∧ Uncut isEnd pieces := by
  constructor
  · intro huncut
    refine ⟨by simpa using huncut [piece] pieces rfl, ?_⟩
    rintro before after rfl
    by_cases hempty : before.flatten = []
    · rw [hempty, cuts_nil_left]
    · rw [← cuts_append piece hempty]
      exact huncut (piece :: before) after rfl
  · rintro ⟨hcuts, huncut⟩ before after hpieces
    cases before with
    | nil => rfl
    | cons first before =>
        obtain ⟨rfl, hrest⟩ : piece = first ∧ pieces = before ++ after :=
          List.cons.inj hpieces
        rw [hrest] at hcuts huncut
        rw [List.flatten_cons]
        by_cases hempty : before.flatten = []
        · rw [List.flatten_append, hempty, List.nil_append] at hcuts
          rw [hempty, List.append_nil, hcuts]
        · rw [cuts_append piece hempty]
          exact huncut before after rfl

/-- A text is cut into pieces as its image is. -/
theorem exists_pieces {f : α → β} {text : List α} {images : List (List β)}
    (himages : text.map f = images.flatten) :
    ∃ pieces : List (List α), pieces.flatten = text ∧ pieces.map (List.map f) = images := by
  induction images generalizing text with
  | nil => exact ⟨[], by simpa using himages.symm, rfl⟩
  | cons image images ih =>
      obtain ⟨piece, rest, rfl, rfl, hrest⟩ := List.map_eq_append_iff.mp himages
      obtain ⟨pieces, rfl, rfl⟩ := ih hrest
      exact ⟨piece :: pieces, rfl, rfl⟩

/-- Read one by one, uncut pieces give the lines of the text. -/
theorem Uncut.flatMap_lines {pieces : List (List α)} (huncut : Uncut isEnd pieces) :
    pieces.flatMap (lines isEnd) = lines isEnd pieces.flatten := by
  induction pieces with
  | nil => rfl
  | cons piece pieces ih =>
      obtain ⟨hcuts, huncut⟩ := (uncut_cons_iff piece pieces).mp huncut
      rw [List.flatMap_cons, List.flatten_cons, lines_append hcuts, ih huncut]

/-- The pieces have no fewer lines than the text, and as many only if they are uncut. -/
theorem length_flatMap_lines (pieces : List (List α)) :
    (lines isEnd pieces.flatten).length ≤ (pieces.flatMap (lines isEnd)).length ∧
      ((pieces.flatMap (lines isEnd)).length = (lines isEnd pieces.flatten).length →
        Uncut isEnd pieces) := by
  induction pieces with
  | nil => exact ⟨Nat.le_refl _, fun _ => uncut_nil⟩
  | cons piece pieces ih =>
      obtain ⟨hle, huncut⟩ := ih
      have hlength := @length_lines_append _ isEnd piece pieces.flatten
      rw [List.flatMap_cons, List.flatten_cons, List.length_append]
      refine ⟨by omega, fun hequal => (uncut_cons_iff piece pieces).mpr ⟨?_, huncut (by omega)⟩⟩
      exact Bool.toNat_eq_zero.mp (by omega)

/-! ## Pieces some of which are dropped -/

/-- What the kept pieces hold is less than the text, unless only line ends are dropped. -/
theorem length_flatten_keptLines (kept : List α → Bool) (pieces : List (List α)) :
    (keptLines isEnd kept pieces).flatten.length ≤ (lines isEnd pieces.flatten).flatten.length ∧
      ((keptLines isEnd kept pieces).flatten.length = (lines isEnd pieces.flatten).flatten.length →
        ∀ piece ∈ pieces, kept piece = false → lines isEnd piece = []) := by
  induction pieces with
  | nil => exact ⟨Nat.le_refl _, by simp⟩
  | cons piece pieces ih =>
      obtain ⟨hle, hdropped⟩ := ih
      rw [flatten_lines] at hle hdropped ⊢
      rw [keptLines, List.flatMap_cons, ← keptLines, List.flatten_cons, List.filter_append,
        List.length_append, List.flatten_append, List.length_append, List.forall_mem_cons]
      cases hkept : kept piece with
      | true =>
          rw [if_pos rfl, flatten_lines]
          refine ⟨by omega, fun hequal => ⟨by simp, hdropped (by omega)⟩⟩
      | false =>
          rw [if_neg (by simp), List.flatten_nil, List.length_nil]
          refine ⟨by omega, fun hequal => ⟨fun _ => ?_, hdropped (by omega)⟩⟩
          have hnone : (piece.filter fun a => !isEnd a).length = 0 := by omega
          rw [List.length_eq_zero_iff, List.filter_eq_nil_iff] at hnone
          exact (lines_eq_nil_iff piece).mpr fun a hmem => by simpa using hnone a hmem

theorem keptLines_eq_flatMap {kept : List α → Bool} {pieces : List (List α)}
    (hdropped : ∀ piece ∈ pieces, kept piece = false → lines isEnd piece = []) :
    keptLines isEnd kept pieces = pieces.flatMap (lines isEnd) := by
  refine List.flatMap_congr fun piece hmem => ?_
  cases hkept : kept piece with
  | true => rfl
  | false => rw [hdropped piece hmem hkept, if_neg (by simp)]

/-- The kept pieces have the lines of the text exactly if no line is dropped and none is cut. -/
theorem keptLines_eq_iff (isEnd : α → Bool) (kept : List α → Bool) (pieces : List (List α)) :
    keptLines isEnd kept pieces = lines isEnd pieces.flatten ↔
      (∀ piece ∈ pieces, kept piece = false → lines isEnd piece = []) ∧ Uncut isEnd pieces := by
  constructor
  · intro hequal
    have hdropped := (length_flatten_keptLines kept pieces).2 (by rw [hequal])
    refine ⟨hdropped, (length_flatMap_lines pieces).2 ?_⟩
    rw [← keptLines_eq_flatMap hdropped, hequal]
  · rintro ⟨hdropped, huncut⟩
    rw [keptLines_eq_flatMap hdropped, huncut.flatMap_lines]

/-! ## Lines of an encoded text -/

theorem lines_word_append {word text : List α} (hword : ∀ a ∈ word, isEnd a = false)
    (hstarts : starts isEnd text = true) {line : List α} {rest : List (List α)}
    (hlines : lines isEnd text = line :: rest) :
    lines isEnd (word ++ text) = (word ++ line) :: rest := by
  induction word with
  | nil => exact hlines
  | cons a word ih =>
      obtain ⟨ha, hword⟩ := List.forall_mem_cons.mp hword
      have hgoes : starts isEnd (word ++ text) = true := by
        cases word with
        | nil => exact hstarts
        | cons b word => simpa [starts] using hword b List.mem_cons_self
      obtain ⟨hstops, -⟩ | ⟨-, line', rest', htail, hcons⟩ := lines_cons_word ha (word ++ text)
      · rw [hgoes] at hstops
        contradiction
      · rw [ih hword] at htail
        obtain ⟨rfl, rfl⟩ := List.cons.inj htail
        exact hcons

theorem lines_ends_append {first : List α} (hfirst : ∀ a ∈ first, isEnd a = true)
    (second : List α) : lines isEnd (first ++ second) = lines isEnd second := by
  induction first with
  | nil => rfl
  | cons a first ih =>
      obtain ⟨ha, hfirst⟩ := List.forall_mem_cons.mp hfirst
      rw [List.cons_append, lines_cons_end ha, ih hfirst]

section Written

variable {isEnd' : β → Bool} {write : α → List β}
  (hne : ∀ a, write a ≠ []) (hwrite : ∀ a, ∀ b ∈ write a, isEnd' b = isEnd a)

include hne hwrite

theorem starts_flatMap (text : List α) :
    starts isEnd' (text.flatMap write) = starts isEnd text := by
  cases text with
  | nil => rfl
  | cons a text =>
      obtain ⟨b, rest, hcons⟩ := List.exists_cons_of_ne_nil (hne a)
      have hb := hwrite a b (by simp [hcons])
      rw [List.flatMap_cons, hcons]
      simp [starts, hb]

/-- A text keeps its lines if each element is written as a few that end a line if it does. -/
theorem lines_flatMap (text : List α) :
    lines isEnd' (text.flatMap write) =
      (lines isEnd text).map fun line => line.flatMap write := by
  induction text with
  | nil => rfl
  | cons a text ih =>
      rw [List.flatMap_cons]
      cases ha : isEnd a with
      | true =>
          rw [lines_cons_end ha, lines_ends_append, ih]
          exact fun b hmem => (hwrite a b hmem).trans ha
      | false =>
          have hword : ∀ b ∈ write a, isEnd' b = false :=
            fun b hmem => (hwrite a b hmem).trans ha
          have hsame := starts_flatMap hne hwrite text
          obtain ⟨hstarts, hcons⟩ | ⟨hstarts, line, rest, htext, hcons⟩ := lines_cons_word ha text
          · rw [hstarts] at hsame
            rw [hcons, lines_append (by rw [cuts, hsame, Bool.and_false]),
              lines_word (hne a) hword, ih]
            simp
          · rw [hstarts] at hsame
            rw [htext, List.map_cons] at ih
            rw [hcons, lines_word_append hword hsame ih, List.map_cons, List.flatMap_cons]

end Written

/-! ## Logs that are cut to their last lines -/

/-- A line is not empty and has no end in it. -/
theorem of_mem_lines {text line : List α} (hline : line ∈ lines isEnd text) :
    line ≠ [] ∧ ∀ a ∈ line, isEnd a = false := by
  induction text generalizing line with
  | nil => exact absurd hline List.not_mem_nil
  | cons a text ih =>
      cases ha : isEnd a with
      | true =>
          rw [lines_cons_end ha] at hline
          exact ih hline
      | false =>
          obtain ⟨-, hlines⟩ | ⟨-, first, rest, htext, hlines⟩ := lines_cons_word ha text
          · rw [hlines] at hline
            rcases List.mem_cons.mp hline with rfl | hrest
            · exact ⟨List.cons_ne_nil _ _, by simpa using ha⟩
            · exact ih hrest
          · rw [hlines] at hline
            rw [htext] at ih
            rcases List.mem_cons.mp hline with rfl | hrest
            · refine ⟨List.cons_ne_nil _ _, List.forall_mem_cons.mpr ⟨ha, ?_⟩⟩
              exact (ih List.mem_cons_self).2
            · exact ih (List.mem_cons_of_mem _ hrest)

/-- Lines that are joined again are the same lines. -/
theorem lines_intercalate {a : α} (ha : isEnd a = true) {text : List (List α)}
    (htext : ∀ line ∈ text, line ≠ [] ∧ ∀ b ∈ line, isEnd b = false) :
    lines isEnd ([a].intercalate text) = text := by
  induction text with
  | nil => rfl
  | cons line rest ih =>
      obtain ⟨⟨hne, hword⟩, hrest⟩ := List.forall_mem_cons.mp htext
      cases rest with
      | nil => simpa using lines_word hne hword
      | cons next rest =>
          rw [List.intercalate_cons_cons, List.append_assoc, List.singleton_append,
            lines_append_cons _ _ ha, lines_word hne hword, ih hrest, List.singleton_append]

theorem lines_dropWhile (text : List α) : lines isEnd (text.dropWhile isEnd) = lines isEnd text := by
  induction text with
  | nil => rfl
  | cons a text ih =>
      cases ha : isEnd a with
      | true => rw [List.dropWhile_cons_of_pos ha, ih, lines_cons_end ha]
      | false => rw [List.dropWhile_cons_of_neg (by simp [ha])]

theorem lines_rdropWhile (text : List α) :
    lines isEnd (text.rdropWhile isEnd) = lines isEnd text := by
  induction text using List.reverseRecOn with
  | nil => rfl
  | append_singleton text a ih =>
      rw [List.rdropWhile_concat]
      split_ifs with ha
      · rw [ih, lines_append_cons text [] ha, lines_nil, List.append_nil]
      · rfl

/-- The end of a list does not depend on what stood before it. -/
theorem rtake_append_rtake (limit : ℕ) (old new : List α) :
    (old.rtake limit ++ new).rtake limit = (old ++ new).rtake limit := by
  rw [List.rtake_eq_reverse_take_reverse, List.rtake_eq_reverse_take_reverse,
    List.rtake_eq_reverse_take_reverse, List.reverse_append, List.reverse_reverse,
    List.reverse_append, List.take_append, List.take_append, List.take_take,
    min_eq_left (Nat.sub_le _ _)]

section Logs

variable (isEnd) (limit : ℕ) (newline : α)

/-- A log with one more text, cut to its last `limit` lines if it has more. -/
def appendText (text log : List α) : List α :=
  if text = [] then log
  else
    let grown := if log = [] then text else log ++ newline :: text
    let kept := lines isEnd grown
    if kept.length > limit then [newline].intercalate (kept.drop (kept.length - limit)) else grown

variable {isEnd limit newline}

theorem lines_appendText (hnewline : isEnd newline = true) (text : List α) {log : List α}
    (hlog : (lines isEnd log).length ≤ limit) :
    lines isEnd (appendText isEnd limit newline text log) =
      (lines isEnd log ++ lines isEnd text).rtake limit := by
  have hgrown : lines isEnd (if log = [] then text else log ++ newline :: text) =
      lines isEnd log ++ lines isEnd text := by
    split_ifs with hempty
    · rw [hempty, lines_nil, List.nil_append]
    · exact lines_append_cons log text hnewline
  by_cases htext : text = []
  · rw [appendText, if_pos htext, htext, lines_nil, List.append_nil, List.rtake,
      Nat.sub_eq_zero_of_le hlog, List.drop_zero]
  · rw [appendText, if_neg htext]
    generalize (if log = [] then text else log ++ newline :: text) = grown at hgrown
    dsimp only
    split_ifs with hlong
    · rw [← hgrown]
      refine lines_intercalate hnewline fun line hline => ?_
      exact of_mem_lines (List.mem_of_mem_drop hline)
    · rw [← hgrown, List.rtake, Nat.sub_eq_zero_of_le (not_lt.mp hlong), List.drop_zero]

/-- A log that shows the last lines of all there were still does with one more text. -/
theorem lines_appendText_rtake (hnewline : isEnd newline = true) (text : List α) {log : List α}
    {shown : List (List α)} (hlog : lines isEnd log = shown.rtake limit) :
    lines isEnd (appendText isEnd limit newline text log) =
      (shown ++ lines isEnd text).rtake limit := by
  have hshort : (lines isEnd log).length ≤ limit := by
    rw [hlog, List.rtake, List.length_drop]
    omega
  rw [lines_appendText hnewline text hshort, hlog, rtake_append_rtake]

end Logs

end Lines
