import Mathlib.Data.List.Basic
import Mathlib.Tactic.Common

/-!
# Quoting in shell commands and script literals

A POSIX shell takes every character between single quotes as it is, and the character
behind a backslash outside of them. A script literal ends at its double quote; a
backslash there stands before a double quote or another backslash.
-/

namespace Shell

abbrev singleQuote : Char := '\x27'
abbrev doubleQuote : Char := '\x22'
abbrev backslash : Char := '\x5c'

/-! ## Commands -/

inductive Token
  | word (text : List Char)
  | operator (c : Char)
  deriving DecidableEq

/-- Where the next character stands. -/
inductive Place
  | plain
  | quoted
  /-- behind a backslash -/
  | escaped

/-- What separates words. -/
def isBlank (c : Char) : Bool :=
  c = ' ' || c = '\t'

/-- What is an operator or a part of one. -/
def isOperator (c : Char) : Bool :=
  [';', '&', '|', '<', '>', '(', ')', '\n'].contains c

/-- What does not stand for itself: expansions, patterns, comments and the other quotes. -/
def expands (c : Char) : Bool :=
  ['$', '\x60', doubleQuote, '*', '?', '[', '#', '~'].contains c

/-- The word that has come together, if any. -/
def flush : Option (List Char) → List Token
  | none => []
  | some text => [.word text]

def put (c : Char) (word : Option (List Char)) : Option (List Char) :=
  some (word.getD [] ++ [c])

/-- The tokens of a command, none if a quote is left open or something does not stand for itself. -/
def tokensFrom : Place → Option (List Char) → List Char → Option (List Token)
  | .plain, word, [] => some (flush word)
  | .quoted, _, [] => none
  | .escaped, _, [] => none
  | .quoted, word, c :: rest =>
      if c = singleQuote then tokensFrom .plain word rest else tokensFrom .quoted (put c word) rest
  | .escaped, word, c :: rest => tokensFrom .plain (if c = '\n' then word else put c word) rest
  | .plain, word, c :: rest =>
      if c = singleQuote then tokensFrom .quoted (some (word.getD [])) rest
      else if c = backslash then tokensFrom .escaped word rest
      else if isBlank c then (tokensFrom .plain none rest).map (flush word ++ ·)
      else if isOperator c then (tokensFrom .plain none rest).map (flush word ++ .operator c :: ·)
      else if expands c then none
      else tokensFrom .plain (put c word) rest

def tokens (command : List Char) : Option (List Token) :=
  tokensFrom .plain none command

/-- What stands for itself outside of quotes. -/
def isOrdinary (c : Char) : Bool :=
  c ≠ singleQuote && c ≠ backslash && !isBlank c && !isOperator c && !expands c

def Token.text : Token → List Char
  | .word text => text
  | .operator c => [c]

/-- The token can be written without quotes. -/
def Token.isBare : Token → Bool
  | .word text => !text.isEmpty && text.all isOrdinary
  | .operator c => isOperator c && c ≠ singleQuote && c ≠ backslash && !isBlank c

/-- Tokens with a blank behind each. -/
def spaced (bare : List Token) : List Char :=
  bare.flatMap fun token => token.text ++ [' ']

/-- The text goes on with another word or operator, or ends. -/
def EndsWord (rest : List Char) : Prop :=
  ∀ c ∈ rest.head?, isBlank c = true ∨ isOperator c = true

section

variable {c : Char} {word : Option (List Char)} {rest : List Char}

/-- A character that is nothing special stands for itself. -/
theorem tokensFrom_ordinary (hc : isOrdinary c = true) :
    tokensFrom .plain word (c :: rest) = tokensFrom .plain (put c word) rest := by
  simp only [isOrdinary, Bool.and_eq_true, decide_eq_true_eq, Bool.not_eq_true'] at hc
  obtain ⟨⟨⟨⟨hquote, hescape⟩, hblank⟩, hoperator⟩, hexpands⟩ := hc
  rw [tokensFrom, if_neg hquote, if_neg hescape, hblank, hoperator, hexpands]
  rfl

/-- Special characters are ASCII. -/
theorem tokensFrom_above (hc : 0x80 ≤ c.toNat) :
    tokensFrom .plain word (c :: rest) = tokensFrom .plain (put c word) rest := by
  have hne (d : Char) (hd : d.toNat < 0x80) : c ≠ d := by
    rintro rfl
    omega
  have hnot (special : List Char) (hspecial : special.all (fun d => d.toNat < 0x80) = true) :
      special.contains c = false := by
    rw [List.contains_eq_mem, decide_eq_false_iff_not]
    intro hmem
    exact Nat.not_lt_of_le hc (of_decide_eq_true (List.all_eq_true.mp hspecial c hmem))
  have hoperator : isOperator c = false := hnot _ rfl
  have hexpands : expands c = false := hnot _ rfl
  refine tokensFrom_ordinary ?_
  simp [isOrdinary, hoperator, hexpands, isBlank, hne singleQuote (by decide),
    hne backslash (by decide), hne ' ' (by decide), hne '\t' (by decide)]

theorem tokensFrom_escapedQuote (text : List Char) :
    tokensFrom .quoted (some text) ([singleQuote, backslash, singleQuote, singleQuote] ++ rest) =
      tokensFrom .quoted (some (text ++ [singleQuote])) rest := rfl

theorem tokensFrom_quoted (hc : c ≠ singleQuote) (text : List Char) :
    tokensFrom .quoted (some text) (c :: rest) = tokensFrom .quoted (some (text ++ [c])) rest := by
  rw [tokensFrom, if_neg hc]
  rfl

/-- Behind the closing quote, a word ends where the next one or an operator begins. -/
theorem tokensFrom_endsWord (text : List Char) (hrest : EndsWord rest) :
    tokensFrom .plain (some text) rest = (tokens rest).map (.word text :: ·) := by
  cases rest with
  | nil => rfl
  | cons c rest =>
      have hends := hrest c rfl
      have hquote : c ≠ singleQuote := by
        rintro rfl
        revert hends
        decide
      have hescape : c ≠ backslash := by
        rintro rfl
        revert hends
        decide
      rw [tokens, tokensFrom, tokensFrom, if_neg hquote, if_neg hescape, if_neg hquote,
        if_neg hescape]
      cases hblank : isBlank c with
      | true => simp only [reduceIte, Option.map_map]; rfl
      | false =>
          have hoperator : isOperator c = true := hends.resolve_left (by simp [hblank])
          simp only [Bool.false_eq_true, hoperator, reduceIte, Option.map_map]
          rfl

theorem tokensFrom_bare {text : List Char} (htext : ∀ c ∈ text, isOrdinary c = true)
    (front : List Char) : tokensFrom .plain (some front) (text ++ rest) =
      tokensFrom .plain (some (front ++ text)) rest := by
  induction text generalizing front with
  | nil => rw [List.append_nil]; rfl
  | cons c text ih =>
      obtain ⟨hc, htext⟩ := List.forall_mem_cons.mp htext
      rw [List.cons_append, tokensFrom_ordinary hc]
      exact (ih htext (front ++ [c])).trans (by rw [List.append_assoc]; rfl)

theorem tokens_blank : tokens (' ' :: rest) = tokens rest :=
  Option.map_id'

/-- A bare token is read back. -/
theorem tokens_bare {token : Token} (htoken : token.isBare = true) :
    tokens (token.text ++ ' ' :: rest) = (tokens rest).map (token :: ·) := by
  cases token with
  | operator c =>
      simp only [Token.isBare, Bool.and_eq_true, decide_eq_true_eq, Bool.not_eq_true'] at htoken
      obtain ⟨⟨⟨hoperator, hquote⟩, hescape⟩, hblank⟩ := htoken
      rw [tokens, Token.text, List.singleton_append, tokensFrom, if_neg hquote, if_neg hescape,
        hblank, hoperator]
      exact congrArg (Option.map (.operator c :: ·)) tokens_blank
  | word text =>
      simp only [Token.isBare, Bool.and_eq_true, Bool.not_eq_true', List.all_eq_true] at htoken
      obtain ⟨hne, hall⟩ := htoken
      cases text with
      | nil => cases hne
      | cons c text =>
          obtain ⟨hc, htext⟩ := List.forall_mem_cons.mp hall
          have hends : EndsWord (' ' :: rest) := by
            intro d hd
            cases hd
            exact Or.inl rfl
          have hfirst : put c none = some [c] := rfl
          rw [tokens, Token.text, List.cons_append, tokensFrom_ordinary hc, hfirst,
            tokensFrom_bare htext, tokensFrom_endsWord _ hends, tokens_blank]
          rfl

theorem tokens_spaced {bare : List Token} (hbare : ∀ token ∈ bare, token.isBare = true) :
    tokens (spaced bare ++ rest) = (tokens rest).map (bare ++ ·) := by
  induction bare with
  | nil => exact Option.map_id'.symm
  | cons token bare ih =>
      obtain ⟨htoken, hbare⟩ := List.forall_mem_cons.mp hbare
      have hsplit : spaced (token :: bare) ++ rest =
          token.text ++ ' ' :: (spaced bare ++ rest) := by
        simp [spaced]
      rw [hsplit, tokens_bare htoken, ih hbare, Option.map_map]
      rfl

end

/-- What has come together stays at the front of the word. -/
theorem tokensFrom_grows {place : Place} {text rest : List Char} {found : List Token}
    (hfound : tokensFrom place (some text) rest = some found) :
    ∃ more later, found = .word (text ++ more) :: later := by
  induction rest generalizing place text with
  | nil =>
      cases place with
      | plain =>
          cases hfound
          exact ⟨[], [], by rw [List.append_nil]; rfl⟩
      | quoted => cases hfound
      | escaped => cases hfound
  | cons c rest ih =>
      have hput {place : Place}
          (hrest : tokensFrom place (some (text ++ [c])) rest = some found) :
          ∃ more later, found = .word (text ++ more) :: later := by
        obtain ⟨more, later, rfl⟩ := ih hrest
        exact ⟨c :: more, later, by simp⟩
      have hflush {tail : List Token}
          (hrest : (tokensFrom .plain none rest).map (.word text :: tail ++ ·) = some found) :
          ∃ more later, found = .word (text ++ more) :: later := by
        obtain ⟨later, -, rfl⟩ := Option.map_eq_some_iff.mp hrest
        exact ⟨[], tail ++ later, by simp⟩
      cases place with
      | quoted =>
          rw [tokensFrom] at hfound
          split at hfound
          · exact ih hfound
          · exact hput hfound
      | escaped =>
          rw [tokensFrom] at hfound
          split at hfound
          · exact ih hfound
          · exact hput hfound
      | plain =>
          rw [tokensFrom] at hfound
          split_ifs at hfound with hquote hescape hblank hoperator hexpands
          · exact ih hfound
          · exact ih hfound
          · exact @hflush [] hfound
          · exact @hflush [.operator c] hfound
          · exact hput hfound

/-! ## Literals -/

/-- The value of a literal behind its opening quote, and what follows it. -/
def literalBody : List Char → Option (List Char × List Char)
  | [] => none
  | [c] => if c = doubleQuote then some ([], []) else none
  | c :: d :: rest =>
      if c = doubleQuote then some ([], d :: rest)
      else if c = backslash then
        if d = backslash ∨ d = doubleQuote then
          (literalBody rest).map fun read => (d :: read.1, read.2)
        else none
      else (literalBody (d :: rest)).map fun read => (c :: read.1, read.2)

def literal : List Char → Option (List Char × List Char)
  | [] => none
  | c :: rest => if c = doubleQuote then literalBody rest else none

theorem literalBody_end (rest : List Char) :
    literalBody (doubleQuote :: rest) = some ([], rest) := by
  cases rest <;> rfl

theorem literalBody_escape {d : Char} (hd : d = backslash ∨ d = doubleQuote) (rest : List Char) :
    literalBody (backslash :: d :: rest) =
      (literalBody rest).map fun read => (d :: read.1, read.2) := by
  rw [literalBody, if_neg (by decide), if_pos rfl, if_pos hd]

theorem literalBody_stray {d : Char} (hd : ¬(d = backslash ∨ d = doubleQuote)) (rest : List Char) :
    literalBody (backslash :: d :: rest) = none := by
  rw [literalBody, if_neg (by decide), if_pos rfl, if_neg hd]

theorem literalBody_ordinary {c : Char} (hc : ¬(c = backslash ∨ c = doubleQuote))
    (rest : List Char) :
    literalBody (c :: rest) = (literalBody rest).map fun read => (c :: read.1, read.2) := by
  obtain ⟨hescape, hquote⟩ := not_or.mp hc
  cases rest with
  | nil => exact if_neg hquote
  | cons d rest => rw [literalBody, if_neg hquote, if_neg hescape]

end Shell
