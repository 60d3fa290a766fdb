import XoneDarwin.Machine.Shell
import Mathlib.Data.Option.Basic

/-!
# The privileged command

`ControlCenterViewModel.swift`: the app starts the daemon by a shell command inside an
AppleScript literal. Both layers quote by replacing characters, and Swift's search does
not find a character that a combining mark follows.
-/

namespace XoneDarwin.ControlCenter

open Shell

section

-- Which scalars join the character before them is a table of Unicode.
variable (joins : Char → Bool)

/-- A scalar that joins what stands before it follows. -/
def isJoined (rest : List Char) : Bool :=
  rest.head?.any joins

/-- `replacingOccurrences(of:with:)` for one scalar: a scalar that is joined is another character. -/
def replacingOccurrences (target : Char) (replacement : List Char) : List Char → List Char
  | [] => []
  | c :: rest =>
      if c = target ∧ isJoined joins rest = false then
        replacement ++ replacingOccurrences target replacement rest
      else c :: replacingOccurrences target replacement rest

/-- `shellQuote`. -/
def shellQuote (input : List Char) : List Char :=
  singleQuote :: (replacingOccurrences joins singleQuote
    [singleQuote, backslash, singleQuote, singleQuote] input ++ [singleQuote])

/-- `escaped` of `appleScriptString`. -/
def escaped (input : List Char) : List Char :=
  replacingOccurrences joins doubleQuote [backslash, doubleQuote]
    (replacingOccurrences joins backslash [backslash, backslash] input)

/-- `appleScriptString`. -/
def appleScriptString (input : List Char) : List Char :=
  doubleQuote :: (escaped joins input ++ [doubleQuote])

/-- `shell` of `startDaemon`. -/
def startDaemonShell (logDirectory log daemonDirectory : List Char) : List Char :=
  "mkdir -p ".toList ++ (shellQuote joins logDirectory ++ ("; : > ".toList ++
    (shellQuote joins log ++ ("; cd ".toList ++ (shellQuote joins daemonDirectory ++
      ("; env XBOX_EVENT_UDP=127.0.0.1:7947 XBOX_PAIR_CHANNEL=44 XBOX_WLAN_ACK=1 ".toList ++
        ("XBOX_MULTI_PAIR=1 ./xbox_daemon > ".toList ++ (shellQuote joins log ++
          " 2>&1 < /dev/null &".toList))))))))

/-- What `script` begins and ends with. -/
def scriptStart : List Char := "do shell script ".toList

def scriptEnd : List Char := " with administrator privileges".toList

/-- `script` of `startDaemon`. -/
def startDaemonScript (logDirectory log daemonDirectory : List Char) : List Char :=
  scriptStart ++ (appleScriptString joins (startDaemonShell joins logDirectory log daemonDirectory) ++
    scriptEnd)

/-! ## What they are for -/

/-- What stands between the paths of the command. -/
def makeDirectory : List Token := [.word "mkdir".toList, .word "-p".toList]

def clearFile : List Token := [.operator ';', .word ":".toList, .operator '>']

def changeDirectory : List Token := [.operator ';', .word "cd".toList]

def setEnvironment : List Token :=
  [.operator ';', .word "env".toList, .word "XBOX_EVENT_UDP=127.0.0.1:7947".toList,
    .word "XBOX_PAIR_CHANNEL=44".toList, .word "XBOX_WLAN_ACK=1".toList]

def runDaemon : List Token :=
  [.word "XBOX_MULTI_PAIR=1".toList, .word "./xbox_daemon".toList, .operator '>']

def inBackground : List Token :=
  [.word "2".toList, .operator '>', .operator '&', .word "1".toList, .operator '<',
    .word "/dev/null".toList, .operator '&']

/-- The command `startDaemon` means. -/
def startDaemonTokens (logDirectory log daemonDirectory : List Char) : List Token :=
  makeDirectory ++ .word logDirectory :: (clearFile ++ .word log ::
    (changeDirectory ++ .word daemonDirectory ::
      (setEnvironment ++ (runDaemon ++ .word log :: inBackground))))

/-- The shell reads the quoted text as one word, whatever follows it. -/
def OneWord (text : List Char) : Prop :=
  ∀ rest, EndsWord rest →
    tokens (shellQuote joins text ++ rest) = (tokens rest).map (.word text :: ·)

/-- The literal is read back as the text, whatever follows it. -/
def ReadsBack (text : List Char) : Prop :=
  ∀ rest, literal (appleScriptString joins text ++ rest) = some (text, rest)

/-- The script runs the command that is meant. -/
def RunsAsMeant (logDirectory log daemonDirectory : List Char) : Prop :=
  ∃ command,
    literal ((startDaemonScript joins logDirectory log daemonDirectory).drop scriptStart.length) =
      some (command, scriptEnd) ∧
    tokens command = some (startDaemonTokens logDirectory log daemonDirectory)

/-- The scalar is joined nowhere in the text. -/
def Alone (target : Char) (text : List Char) : Prop :=
  ∀ front back, text = front ++ target :: back → isJoined joins back = false

end

/-! ## Scalars that stand alone -/

section

variable {joins : Char → Bool} {target : Char}

theorem alone_nil : Alone joins target [] := by
  intro front back hsplit
  simp at hsplit

theorem alone_cons {c : Char} {text : List Char} :
    Alone joins target (c :: text) ↔
      (c = target → isJoined joins text = false) ∧ Alone joins target text := by
  constructor
  · intro halone
    refine ⟨?_, fun front back hsplit => halone (c :: front) back (by rw [hsplit]; rfl)⟩
    rintro rfl
    exact halone [] text rfl
  · rintro ⟨hhead, htail⟩ front back hsplit
    cases front with
    | nil =>
        obtain ⟨rfl, rfl⟩ := List.cons.inj hsplit
        exact hhead rfl
    | cons d front =>
        obtain ⟨rfl, hrest⟩ := List.cons.inj hsplit
        exact htail front back hrest

/-- In a text that is put together nothing is joined across the seam if the second part begins with
a scalar that joins nothing. -/
theorem alone_append {text more : List Char} (hseam : isJoined joins more = false) :
    Alone joins target (text ++ more) ↔ Alone joins target text ∧ Alone joins target more := by
  induction text with
  | nil => exact (and_iff_right alone_nil).symm
  | cons c text ih =>
      have hnext : isJoined joins (text ++ more) = isJoined joins text := by
        cases text with
        | nil => exact hseam
        | cons d text => rfl
      rw [List.cons_append, alone_cons, ih, hnext, alone_cons, and_assoc]

theorem alone_of_notMem {text : List Char} (htext : target ∉ text) : Alone joins target text := by
  rintro front back rfl
  exact absurd (by simp) htext

/-- A replacement that begins with what it replaces leaves what comes before as it is. -/
theorem isJoined_replacingOccurrences (replacement text : List Char) :
    isJoined joins (replacingOccurrences joins target (target :: replacement) text) =
      isJoined joins text := by
  cases text with
  | nil => rfl
  | cons c text =>
      rw [replacingOccurrences]
      split
      next hc => rw [hc.1]; rfl
      next => rfl

end

/-- What joins is not ASCII. -/
structure IsJoining (joins : Char → Bool) : Prop where
  above : ∀ c, joins c = true → 0x80 ≤ c.toNat

section

variable {joins : Char → Bool} (hjoins : IsJoining joins)

include hjoins

theorem isJoined_ascii {text : List Char} {c : Char} (hhead : text.head? = some c)
    (hc : c.toNat < 0x80) : isJoined joins text = false := by
  rw [isJoined, hhead, Option.any_some]
  exact Bool.not_eq_true _ ▸ fun h => Nat.not_le_of_lt hc (hjoins.above c h)

omit hjoins in
theorem exists_of_isJoined {text : List Char} (hjoined : ¬isJoined joins text = false) :
    ∃ j back, text = j :: back ∧ joins j = true := by
  cases text with
  | nil => exact absurd rfl hjoined
  | cons j back => exact ⟨j, back, rfl, by simpa [isJoined] using hjoined⟩

/-! ## The shell -/

omit hjoins in
/-- A quote that stands alone is read back as a quote. -/
theorem tokensFrom_replaced {text : List Char} (halone : Alone joins singleQuote text)
    (word rest : List Char) :
    tokensFrom .quoted (some word) (replacingOccurrences joins singleQuote
        [singleQuote, backslash, singleQuote, singleQuote] text ++ rest) =
      tokensFrom .quoted (some (word ++ text)) rest := by
  induction text generalizing word with
  | nil => rw [List.append_nil]; rfl
  | cons c text ih =>
      obtain ⟨hhead, htail⟩ := alone_cons.mp halone
      rw [replacingOccurrences]
      by_cases hc : c = singleQuote
      · rw [if_pos ⟨hc, hhead hc⟩, List.append_assoc, tokensFrom_escapedQuote, ih htail, hc,
          List.append_assoc]
        rfl
      · rw [if_neg fun h => hc h.1, List.cons_append, tokensFrom_quoted hc, ih htail,
          List.append_assoc]
        rfl

/-- One that is joined ends the quotes, and is lost. -/
theorem tokensFrom_replaced_ne {text : List Char} (hjoined : ¬Alone joins singleQuote text)
    (word rest : List Char) (later : List Token) :
    tokensFrom .quoted (some word) (replacingOccurrences joins singleQuote
        [singleQuote, backslash, singleQuote, singleQuote] text ++ rest) ≠
      some (.word (word ++ text) :: later) := by
  induction text generalizing word with
  | nil => exact absurd alone_nil hjoined
  | cons c text ih =>
      rw [alone_cons] at hjoined
      rw [replacingOccurrences]
      by_cases hc : c = singleQuote
      · by_cases hnext : isJoined joins text = false
        · have htail : ¬Alone joins singleQuote text := fun h => hjoined ⟨fun _ => hnext, h⟩
          rw [if_pos ⟨hc, hnext⟩, List.append_assoc, tokensFrom_escapedQuote, hc]
          have hne := ih htail (word ++ [singleQuote])
          rwa [List.append_assoc] at hne
        · obtain ⟨j, back, rfl, hj⟩ := exists_of_isJoined hnext
          have habove := hjoins.above j hj
          have hother : j ≠ singleQuote := by
            rintro rfl
            exact absurd habove (by decide)
          rw [if_neg fun h => hnext h.2, replacingOccurrences, if_neg fun h => hother h.1,
            List.cons_append, tokensFrom, if_pos hc, List.cons_append, tokensFrom_above habove]
          intro hfound
          obtain ⟨more, _, hgrown⟩ := tokensFrom_grows hfound
          obtain ⟨hword, -⟩ := List.cons.inj hgrown
          have hsame := Token.word.inj hword
          rw [Option.getD_some, List.append_assoc, List.append_cancel_left_eq] at hsame
          exact hother ((List.cons.inj hsame).1.symm.trans hc)
      · have htail : ¬Alone joins singleQuote text := fun h => hjoined ⟨fun h => absurd h hc, h⟩
        rw [if_neg fun h => hc h.1, List.cons_append, tokensFrom_quoted hc]
        have hne := ih htail (word ++ [c])
        rwa [List.append_assoc] at hne

omit hjoins in
theorem tokens_shellQuote {text : List Char} (halone : Alone joins singleQuote text)
    {rest : List Char} (hrest : EndsWord rest) :
    tokens (shellQuote joins text ++ rest) = (tokens rest).map (.word text :: ·) := by
  have hopen (more : List Char) :
      tokensFrom .plain none (singleQuote :: more) = tokensFrom .quoted (some []) more := rfl
  have hclose (word more : List Char) :
      tokensFrom .quoted (some word) (singleQuote :: more) = tokensFrom .plain (some word) more := rfl
  rw [tokens, shellQuote, List.cons_append, hopen, List.append_assoc, tokensFrom_replaced halone,
    List.singleton_append, hclose, List.nil_append, tokensFrom_endsWord text hrest]

theorem tokens_shellQuote_ne {text : List Char} (hjoined : ¬Alone joins singleQuote text)
    (rest : List Char) (later : List Token) :
    tokens (shellQuote joins text ++ rest) ≠ some (.word text :: later) := by
  have hopen (more : List Char) :
      tokensFrom .plain none (singleQuote :: more) = tokensFrom .quoted (some []) more := rfl
  rw [tokens, shellQuote, List.cons_append, hopen, List.append_assoc]
  exact tokensFrom_replaced_ne hjoins hjoined [] _ later

theorem oneWord_iff (text : List Char) :
    OneWord joins text ↔ Alone joins singleQuote text := by
  constructor
  · intro hone
    by_contra hjoined
    have hempty : EndsWord [] := fun c hc => absurd hc (by simp)
    exact tokens_shellQuote_ne hjoins hjoined [] [] (hone [] hempty)
  · exact fun halone rest hrest => tokens_shellQuote halone hrest

/-! ## The literal -/

omit hjoins in
theorem escaped_cons (c : Char) (text : List Char) :
    escaped joins (c :: text) =
      if (c = backslash ∨ c = doubleQuote) ∧ isJoined joins text = false then
        backslash :: c :: escaped joins text
      else c :: escaped joins text := by
  have hother : backslash ≠ doubleQuote := by decide
  have hpass (more : List Char) :
      replacingOccurrences joins doubleQuote [backslash, doubleQuote] (backslash :: more) =
        backslash :: replacingOccurrences joins doubleQuote [backslash, doubleQuote] more := by
    rw [replacingOccurrences, if_neg fun h => hother h.1]
  rw [escaped, replacingOccurrences]
  by_cases hescape : c = backslash
  · subst hescape
    by_cases hnext : isJoined joins text = false
    · rw [if_pos ⟨rfl, hnext⟩, if_pos ⟨Or.inl rfl, hnext⟩, List.cons_append, hpass,
        List.singleton_append, hpass]
      rfl
    · rw [if_neg fun h => hnext h.2, if_neg fun h => hnext h.2, hpass]
      rfl
  · rw [if_neg fun h => hescape h.1, replacingOccurrences, isJoined_replacingOccurrences]
    by_cases hquote : c = doubleQuote ∧ isJoined joins text = false
    · rw [if_pos hquote, if_pos ⟨Or.inr hquote.1, hquote.2⟩, hquote.1]
      rfl
    · rw [if_neg hquote, if_neg fun h => hquote ⟨h.1.resolve_left hescape, h.2⟩]
      rfl

omit hjoins in
/-- What stands alone is read back as itself. -/
theorem literalBody_escaped {text : List Char} (hescape : Alone joins backslash text)
    (hquote : Alone joins doubleQuote text) (rest : List Char) :
    literalBody (escaped joins text ++ doubleQuote :: rest) = some (text, rest) := by
  induction text with
  | nil => exact literalBody_end rest
  | cons c text ih =>
      obtain ⟨hescape, htail⟩ := alone_cons.mp hescape
      obtain ⟨hquote, htail'⟩ := alone_cons.mp hquote
      have hrest := ih htail htail'
      rw [escaped_cons]
      by_cases hc : c = backslash ∨ c = doubleQuote
      · have hnext : isJoined joins text = false := hc.elim hescape hquote
        rw [if_pos ⟨hc, hnext⟩, List.cons_append, List.cons_append, literalBody_escape hc, hrest]
        rfl
      · rw [if_neg fun h => hc h.1, List.cons_append, literalBody_ordinary hc, hrest]
        rfl

/-- What is joined is no escape, or it ends the literal too early. -/
theorem literalBody_joined {text : List Char}
    (hjoined : ¬(Alone joins backslash text ∧ Alone joins doubleQuote text)) (rest : List Char)
    {read : List Char × List Char}
    (hread : literalBody (escaped joins text ++ doubleQuote :: rest) = some read) :
    rest.length < read.2.length := by
  induction text generalizing read with
  | nil => exact absurd ⟨alone_nil, alone_nil⟩ hjoined
  | cons c text ih =>
      rw [alone_cons, alone_cons] at hjoined
      rw [escaped_cons] at hread
      by_cases hc : c = backslash ∨ c = doubleQuote
      · by_cases hnext : isJoined joins text = false
        · have htail : ¬(Alone joins backslash text ∧ Alone joins doubleQuote text) :=
            fun h => hjoined ⟨⟨fun _ => hnext, h.1⟩, fun _ => hnext, h.2⟩
          rw [if_pos ⟨hc, hnext⟩, List.cons_append, List.cons_append, literalBody_escape hc,
            Option.map_eq_some_iff] at hread
          obtain ⟨later, hlater, rfl⟩ := hread
          have hlonger := ih htail hlater
          exact hlonger
        · obtain ⟨j, back, rfl, hj⟩ := exists_of_isJoined hnext
          have habove := hjoins.above j hj
          have hother : ¬(j = backslash ∨ j = doubleQuote) := by
            rintro (rfl | rfl) <;> exact absurd habove (by decide)
          rw [if_neg fun h => hnext h.2, escaped_cons, if_neg fun h => hother h.1, List.cons_append,
            List.cons_append] at hread
          rcases hc with rfl | rfl
          · rw [literalBody_stray hother] at hread
            cases hread
          · rw [literalBody_end] at hread
            cases hread
            simp only [List.length_cons, List.length_append]
            omega
      · have htail : ¬(Alone joins backslash text ∧ Alone joins doubleQuote text) :=
          fun h => hjoined ⟨⟨fun h => absurd (Or.inl h) hc, h.1⟩, fun h => absurd (Or.inr h) hc, h.2⟩
        rw [if_neg fun h => hc h.1, List.cons_append, literalBody_ordinary hc,
          Option.map_eq_some_iff] at hread
        obtain ⟨later, hlater, rfl⟩ := hread
        have hlonger := ih htail hlater
        exact hlonger

omit hjoins in
theorem literal_appleScriptString (text rest : List Char) :
    literal (appleScriptString joins text ++ rest) =
      literalBody (escaped joins text ++ doubleQuote :: rest) := by
  rw [appleScriptString, List.cons_append, List.append_assoc, literal, if_pos rfl]
  rfl

theorem readsBack_iff (text : List Char) :
    ReadsBack joins text ↔ Alone joins backslash text ∧ Alone joins doubleQuote text := by
  constructor
  · intro hreads
    by_contra hjoined
    have hread := hreads []
    rw [literal_appleScriptString] at hread
    exact absurd (literalBody_joined hjoins hjoined [] hread) (Nat.lt_irrefl _)
  · rintro ⟨hescape, hquote⟩ rest
    rw [literal_appleScriptString]
    exact literalBody_escaped hescape hquote rest

/-! ## The command -/

theorem tokens_path_iff {path rest : List Char} (hrest : EndsWord rest) {later : List Token} :
    tokens (shellQuote joins path ++ rest) = some (.word path :: later) ↔
      Alone joins singleQuote path ∧ tokens rest = some later := by
  constructor
  · intro hfound
    have halone : Alone joins singleQuote path := by
      by_contra hjoined
      exact tokens_shellQuote_ne hjoins hjoined rest later hfound
    rw [tokens_shellQuote halone hrest] at hfound
    exact ⟨halone, (Option.mem_map_of_injective List.cons_injective).mp hfound⟩
  · rintro ⟨halone, hfound⟩
    rw [tokens_shellQuote halone hrest]
    exact (Option.mem_map_of_injective List.cons_injective).mpr hfound

omit hjoins in
/-- Words and operators that need no quotes are read back. -/
theorem tokens_bare_iff {bare : List Token} (hbare : ∀ token ∈ bare, token.isBare = true)
    {rest : List Char} {later : List Token} :
    tokens (spaced bare ++ rest) = some (bare ++ later) ↔ tokens rest = some later := by
  rw [tokens_spaced hbare]
  exact Option.mem_map_of_injective (List.append_right_injective bare)

omit hjoins in
theorem endsWord_of_head {c : Char} (hc : isBlank c = true ∨ isOperator c = true)
    {text : List Char} (hhead : text.head? = some c) : EndsWord text := by
  intro d hd
  rw [hhead] at hd
  cases hd
  exact hc

omit hjoins in
theorem startDaemonShell_eq (logDirectory log daemonDirectory : List Char) :
    startDaemonShell joins logDirectory log daemonDirectory =
      spaced makeDirectory ++ (shellQuote joins logDirectory ++ (spaced clearFile ++
        (shellQuote joins log ++ (spaced changeDirectory ++ (shellQuote joins daemonDirectory ++
          (spaced setEnvironment ++ (spaced runDaemon ++ (shellQuote joins log ++
            " 2>&1 < /dev/null &".toList)))))))) := by
  have hmkdir : "mkdir -p ".toList = spaced makeDirectory := by decide
  have hclear : "; : > ".toList = spaced clearFile := by decide
  have hcd : "; cd ".toList = spaced changeDirectory := by decide
  have henv : "; env XBOX_EVENT_UDP=127.0.0.1:7947 XBOX_PAIR_CHANNEL=44 XBOX_WLAN_ACK=1 ".toList =
      spaced setEnvironment := by decide
  have hrun : "XBOX_MULTI_PAIR=1 ./xbox_daemon > ".toList = spaced runDaemon := by decide
  -- The literals are compared one by one; rewriting would compare each with all the others.
  have happend {front front' rest rest' : List Char} (hfront : front = front')
      (hrest : rest = rest') : front ++ rest = front' ++ rest' := congrArg₂ (· ++ ·) hfront hrest
  unfold startDaemonShell
  exact happend hmkdir (happend rfl (happend hclear (happend rfl (happend hcd (happend rfl
    (happend henv (happend hrun rfl)))))))

/-- The command is the one that is meant just if no quote in a path is joined. -/
theorem tokens_startDaemonShell_iff (logDirectory log daemonDirectory : List Char) :
    tokens (startDaemonShell joins logDirectory log daemonDirectory) =
        some (startDaemonTokens logDirectory log daemonDirectory) ↔
      Alone joins singleQuote logDirectory ∧ Alone joins singleQuote log ∧
        Alone joins singleQuote daemonDirectory := by
  have hsemicolon {front : List Char} (hfront : front.head? = some ';') (rest : List Char) :
      EndsWord (front ++ rest) :=
    endsWord_of_head (c := ';') (by decide) (by rw [List.head?_append, hfront]; rfl)
  have hclear : (spaced clearFile).head? = some ';' := by decide
  have hcd : (spaced changeDirectory).head? = some ';' := by decide
  have henv : (spaced setEnvironment).head? = some ';' := by decide
  have hblank : " 2>&1 < /dev/null &".toList.head? = some ' ' := by decide
  have hbackground : tokens " 2>&1 < /dev/null &".toList = some inBackground := by decide
  rw [startDaemonShell_eq, startDaemonTokens, tokens_bare_iff (by decide),
    tokens_path_iff hjoins (hsemicolon hclear _), tokens_bare_iff (by decide),
    tokens_path_iff hjoins (hsemicolon hcd _), tokens_bare_iff (by decide),
    tokens_path_iff hjoins (hsemicolon henv _), tokens_bare_iff (by decide),
    tokens_bare_iff (by decide), tokens_path_iff hjoins (endsWord_of_head (Or.inl rfl) hblank)]
  constructor
  · rintro ⟨hlogDirectory, hlog, hdaemon, -⟩
    exact ⟨hlogDirectory, hlog, hdaemon⟩
  · rintro ⟨hlogDirectory, hlog, hdaemon⟩
    exact ⟨hlogDirectory, hlog, hdaemon, hlog, hbackground⟩

/-- Quoting for the shell joins nothing and parts nothing. -/
theorem alone_replacedQuotes {target : Char} (htarget : target ≠ singleQuote) (text : List Char) :
    Alone joins target (replacingOccurrences joins singleQuote
        [singleQuote, backslash, singleQuote, singleQuote] text) ↔ Alone joins target text := by
  induction text with
  | nil => rfl
  | cons c text ih =>
      rw [replacingOccurrences]
      split
      next hc =>
        have hquote (more : List Char) :
            Alone joins target (singleQuote :: more) ↔ Alone joins target more := by
          rw [alone_cons]
          exact and_iff_right fun h => absurd h.symm htarget
        have hescape (more : List Char) :
            Alone joins target (backslash :: singleQuote :: more) ↔
              Alone joins target (singleQuote :: more) := by
          rw [alone_cons]
          exact and_iff_right fun _ => isJoined_ascii hjoins rfl (by decide)
        rw [hc.1, hquote, ← ih]
        exact (hquote _).trans ((hescape _).trans ((hquote _).trans (hquote _)))
      next => rw [alone_cons, alone_cons, ih, isJoined_replacingOccurrences]

theorem alone_path {target : Char} (htarget : target ≠ singleQuote) (path : List Char)
    {rest : List Char} (hrest : isJoined joins rest = false) :
    Alone joins target (shellQuote joins path ++ rest) ↔
      Alone joins target path ∧ Alone joins target rest := by
  have hclose : isJoined joins [singleQuote] = false := isJoined_ascii hjoins rfl (by decide)
  have hlast : Alone joins target [singleQuote] :=
    alone_of_notMem (by simpa using htarget)
  rw [alone_append hrest, shellQuote, alone_cons, alone_append hclose,
    alone_replacedQuotes hjoins htarget, and_iff_left hlast]
  exact and_congr_left fun _ => and_iff_right fun h => absurd h.symm htarget

/-- A backslash or double quote is joined in the command just if it is joined in a path. -/
theorem alone_startDaemonShell {target : Char} (htarget : target = backslash ∨ target = doubleQuote)
    (logDirectory log daemonDirectory : List Char) :
    Alone joins target (startDaemonShell joins logDirectory log daemonDirectory) ↔
      Alone joins target logDirectory ∧ Alone joins target log ∧
        Alone joins target daemonDirectory := by
  have hquote : target ≠ singleQuote := by rcases htarget with rfl | rfl <;> decide
  have hpath (path rest : List Char) : isJoined joins (shellQuote joins path ++ rest) = false :=
    isJoined_ascii hjoins rfl (by decide)
  have hpiece {piece : List Char} {c : Char} (hhead : piece.head? = some c) (hc : c.toNat < 0x80)
      (rest : List Char) : isJoined joins (piece ++ rest) = false :=
    isJoined_ascii hjoins (by rw [List.head?_append, hhead]; rfl) hc
  have hsemicolon {piece : List Char} (hhead : piece.head? = some ';') (rest : List Char) :
      isJoined joins (piece ++ rest) = false := hpiece hhead (by decide) rest
  have hclear : (spaced clearFile).head? = some ';' := by decide
  have hcd : (spaced changeDirectory).head? = some ';' := by decide
  have henv : (spaced setEnvironment).head? = some ';' := by decide
  have hrun : (spaced runDaemon).head? = some 'X' := by decide
  have hblank : " 2>&1 < /dev/null &".toList.head? = some ' ' := by decide
  have hbare {bare : List Token}
      (hnot : backslash ∉ spaced bare ∧ doubleQuote ∉ spaced bare) {rest : List Char}
      (hrest : isJoined joins rest = false) :
      Alone joins target (spaced bare ++ rest) ↔ Alone joins target rest := by
    rw [alone_append hrest]
    refine and_iff_right (alone_of_notMem ?_)
    rcases htarget with rfl | rfl
    exacts [hnot.1, hnot.2]
  have hlast : Alone joins target " 2>&1 < /dev/null &".toList := by
    refine alone_of_notMem ?_
    rcases htarget with rfl | rfl <;> decide
  rw [startDaemonShell_eq, hbare (by decide) (hpath _ _),
    alone_path hjoins hquote _ (hsemicolon hclear _), hbare (by decide) (hpath _ _),
    alone_path hjoins hquote _ (hsemicolon hcd _), hbare (by decide) (hpath _ _),
    alone_path hjoins hquote _ (hsemicolon henv _), hbare (by decide) (hpiece hrun (by decide) _),
    hbare (by decide) (hpath _ _),
    alone_path hjoins hquote _ (isJoined_ascii hjoins hblank (by decide)), and_iff_left hlast]
  constructor
  · rintro ⟨hlogDirectory, hlog, hdaemon, -⟩
    exact ⟨hlogDirectory, hlog, hdaemon⟩
  · rintro ⟨hlogDirectory, hlog, hdaemon⟩
    exact ⟨hlogDirectory, hlog, hdaemon, hlog⟩

omit hjoins in
theorem drop_startDaemonScript (logDirectory log daemonDirectory : List Char) :
    (startDaemonScript joins logDirectory log daemonDirectory).drop scriptStart.length =
      appleScriptString joins (startDaemonShell joins logDirectory log daemonDirectory) ++
        scriptEnd :=
  List.drop_left

/-- The script runs what is meant just if nothing that is to be escaped is joined in a path. -/
theorem runsAsMeant_iff (logDirectory log daemonDirectory : List Char) :
    RunsAsMeant joins logDirectory log daemonDirectory ↔
      ∀ path ∈ [logDirectory, log, daemonDirectory],
        ∀ target ∈ [singleQuote, doubleQuote, backslash], Alone joins target path := by
  simp only [List.forall_mem_cons, List.not_mem_nil, false_imp_iff, implies_true, and_true]
  have hshell := tokens_startDaemonShell_iff hjoins logDirectory log daemonDirectory
  have hescape := alone_startDaemonShell hjoins (Or.inl rfl) logDirectory log daemonDirectory
  have hquote := alone_startDaemonShell hjoins (Or.inr rfl) logDirectory log daemonDirectory
  rw [RunsAsMeant, drop_startDaemonScript, literal_appleScriptString]
  constructor
  · rintro ⟨command, hread, htokens⟩
    have hplain : Alone joins backslash (startDaemonShell joins logDirectory log daemonDirectory) ∧
        Alone joins doubleQuote (startDaemonShell joins logDirectory log daemonDirectory) := by
      by_contra hjoined
      exact absurd (literalBody_joined hjoins hjoined scriptEnd hread) (Nat.lt_irrefl _)
    rw [literalBody_escaped hplain.1 hplain.2] at hread
    cases hread
    have hs := hshell.mp htokens
    have he := hescape.mp hplain.1
    have hq := hquote.mp hplain.2
    exact ⟨⟨hs.1, hq.1, he.1⟩, ⟨hs.2.1, hq.2.1, he.2.1⟩, hs.2.2, hq.2.2, he.2.2⟩
  · rintro ⟨hlogDirectory, hlog, hdaemon⟩
    refine ⟨_, literalBody_escaped ?_ ?_ scriptEnd, hshell.mpr ⟨hlogDirectory.1, hlog.1, hdaemon.1⟩⟩
    · exact hescape.mpr ⟨hlogDirectory.2.2, hlog.2.2, hdaemon.2.2⟩
    · exact hquote.mpr ⟨hlogDirectory.2.1, hlog.2.1, hdaemon.2.1⟩

/-- Paths stay in the command just if nothing that is to be escaped is joined in them. -/
theorem paths_stay_iff (text logDirectory log daemonDirectory : List Char) :
    (OneWord joins text ↔ Alone joins singleQuote text) ∧
    (ReadsBack joins text ↔ Alone joins backslash text ∧ Alone joins doubleQuote text) ∧
    (RunsAsMeant joins logDirectory log daemonDirectory ↔
      ∀ path ∈ [logDirectory, log, daemonDirectory],
        ∀ target ∈ [singleQuote, doubleQuote, backslash], Alone joins target path) :=
  ⟨oneWord_iff hjoins text, readsBack_iff hjoins text,
    runsAsMeant_iff hjoins logDirectory log daemonDirectory⟩

end

/-! ## Combining marks -/

/-- The block of the combining diacritical marks, U+0300 to U+036F. -/
def isDiacritic (c : Char) : Bool :=
  0x300 ≤ c.toNat && c.toNat ≤ 0x36f

theorem isJoining_diacritic : IsJoining isDiacritic where
  above c hc := by
    simp only [isDiacritic, Bool.and_eq_true, decide_eq_true_eq] at hc
    omega

theorem paths_stay_iff_accent :
    (OneWord isDiacritic ['e', '\u0301'] ↔ Alone isDiacritic singleQuote ['e', '\u0301']) ∧
    (ReadsBack isDiacritic ['e', '\u0301'] ↔ Alone isDiacritic backslash ['e', '\u0301'] ∧
      Alone isDiacritic doubleQuote ['e', '\u0301']) ∧
    (RunsAsMeant isDiacritic ['/'] ['/', 'l'] ['/', 'e', '\u0301'] ↔
      ∀ path ∈ [['/'], ['/', 'l'], ['/', 'e', '\u0301']],
        ∀ target ∈ [singleQuote, doubleQuote, backslash], Alone isDiacritic target path) :=
  paths_stay_iff isJoining_diacritic ['e', '\u0301'] ['/'] ['/', 'l'] ['/', 'e', '\u0301']

/-- A directory whose name ends with a second command for the shell. -/
def accentedPath : List Char :=
  ['/', singleQuote, '\u0301', ';', 'b', singleQuote, '\u0301']

theorem accentedPath_escapes :
    tokens (shellQuote isDiacritic accentedPath) =
        some [.word ['/', '\u0301'], .operator ';', .word ['b', '\u0301']] ∧
    ¬OneWord isDiacritic accentedPath ∧ ¬RunsAsMeant isDiacritic ['/'] ['/', 'l'] accentedPath ∧
    ¬ReadsBack isDiacritic [doubleQuote, '\u0301'] := by
  have hsplit : tokens (shellQuote isDiacritic accentedPath) =
      some [.word ['/', '\u0301'], .operator ';', .word ['b', '\u0301']] := by decide
  have hjoined : ¬Alone isDiacritic singleQuote accentedPath := by
    intro halone
    have hnext := halone ['/'] ['\u0301', ';', 'b', singleQuote, '\u0301'] rfl
    revert hnext
    decide
  refine ⟨hsplit, fun hone => ?_, fun hruns => ?_, fun hreads => ?_⟩
  · exact hjoined ((oneWord_iff isJoining_diacritic _).mp hone)
  · exact hjoined ((runsAsMeant_iff isJoining_diacritic _ _ _).mp hruns accentedPath (by simp)
      singleQuote (by simp))
  · have hread := hreads []
    revert hread
    decide

end XoneDarwin.ControlCenter
