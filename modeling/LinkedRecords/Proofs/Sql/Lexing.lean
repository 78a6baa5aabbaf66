import LinkedRecords.Sql.Query
import Mathlib.Data.List.Chain
import Mathlib.Data.List.TakeWhile

/-! # Reading SQL text

An engine reads SQL text as a row of quoted names, quoted strings, words, integers and punctuation.
What stands between quotes ends at the first quote that is not doubled. The text of a list of tokens
is read as these tokens if punctuation or white space stands between any two that are neither.

* `lex` — the reader of an engine, told by `scan`, which reads one lexeme.
* `lex_quotedBy`, `lex_word`, `lex_int`, `lex_mark` — each sort of lexeme is read back.
* `Token.lex_spell` — the step: a token is read back from its text.
* `Token.lex_flatMap_spell` — the main statement, by induction on the tokens.
-/

namespace LinkedRecords.Sql

/-! ## Lexemes -/

/-- What an engine reads at once. -/
inductive Lexeme where
  /-- A name between double quotes, without them. -/
  | ident (name : String)
  /-- A string between single quotes, without them. -/
  | text (s : String)
  | word (s : String)
  | int (n : Int)
  /-- A character of punctuation. -/
  | mark (c : Char)
deriving DecidableEq, Repr

/-- What stands between two quotes `c`, if `c` is a quote. -/
def quoted? (c : Char) : Option (String → Lexeme) :=
  if c = '"' then some .ident else if c = '\'' then some .text else none

/-- Whether a word may start with `c`. -/
def startsWord (c : Char) : Bool := c.isAlpha || c = '_'

/-- Whether a word may go on with `c`. -/
def inWord (c : Char) : Bool := c.isAlphanum || c = '_'

/-- The text up to the first `quote` that is not doubled, and what stands behind that quote; `none`
if there is no such quote. -/
def readQuoted (quote : Char) : List Char → Option (List Char × List Char)
  | [] => none
  | [c] => if c = quote then some ([], []) else none
  | c :: d :: cs =>
    if c = quote then
      if d = quote then (readQuoted quote cs).map fun r => (quote :: r.1, r.2)
      else some ([], d :: cs)
    else (readQuoted quote (d :: cs)).map fun r => (c :: r.1, r.2)

/-- The number that `cs` starts with, and what stands behind it. -/
def readDigits (cs : List Char) : Option (Nat × List Char) :=
  match cs.takeWhile Char.isDigit with
  | [] => none
  | digits => some (Nat.ofDigitChars 10 digits 0, cs.dropWhile Char.isDigit)

/-- The integer that a text starts with, which may have a sign, and what stands behind it. -/
def readInt : List Char → Option (Int × List Char)
  | '-' :: cs => (readDigits cs).map fun r => (-r.1, r.2)
  | '+' :: cs => (readDigits cs).map fun r => (r.1, r.2)
  | cs => (readDigits cs).map fun r => (r.1, r.2)

/-- What the text `c :: cs` starts with, if it is not white space, and what stands behind it; `none`
if a quote is left open. -/
def scan (c : Char) (cs : List Char) : Option (Option Lexeme × List Char) :=
  match quoted? c with
  | some lexeme => (readQuoted c cs).map fun r => (some (lexeme (.ofList r.1)), r.2)
  | none =>
    if startsWord c then
      some (some (.word (.ofList (c :: cs.takeWhile inWord))), cs.dropWhile inWord)
    else
      match readInt (c :: cs) with
      | some r => some (some (.int r.1), r.2)
      | none => some (if c.isWhitespace then none else some (.mark c), cs)

theorem length_readQuoted {quote : Char} {cs : List Char} {r : List Char × List Char}
    (h : readQuoted quote cs = some r) : r.2.length ≤ cs.length := by
  -- one case for each way to go on: at the end, at a doubled quote, at a closing quote, at any
  -- other character
  induction cs using readQuoted.induct quote generalizing r with
  | case1 => cases h
  | case2 =>
      simp only [readQuoted, if_true, Option.some.injEq] at h
      simp [← h]
  | case3 c hquote => simp [readQuoted, hquote] at h
  | case4 cs ih =>
      simp only [readQuoted, if_true, Option.map_eq_some_iff] at h
      rcases h with ⟨r', hr', rfl⟩
      have hlength := ih hr'
      simp only [List.length_cons]
      omega
  | case5 d cs hquote =>
      simp only [readQuoted, if_true, if_neg hquote, Option.some.injEq] at h
      simp [← h]
  | case6 c d cs hquote ih =>
      simp only [readQuoted, if_neg hquote, Option.map_eq_some_iff] at h
      rcases h with ⟨r', hr', rfl⟩
      have hlength := ih hr'
      simp only [List.length_cons] at hlength ⊢
      omega

theorem length_readDigits {cs : List Char} {r : Nat × List Char} (h : readDigits cs = some r) :
    r.2.length < cs.length := by
  unfold readDigits at h
  split at h
  case h_1 => cases h
  case h_2 digits hdigits =>
    cases h
    have hsplit : (cs.takeWhile Char.isDigit).length + (cs.dropWhile Char.isDigit).length =
        cs.length := by
      rw [← List.length_append, List.takeWhile_append_dropWhile]
    have hsome : 0 < (cs.takeWhile Char.isDigit).length := List.length_pos_iff.2 hdigits
    simp only
    omega

theorem length_readInt {cs : List Char} {r : Int × List Char} (h : readInt cs = some r) :
    r.2.length < cs.length := by
  unfold readInt at h
  split at h
  case h_1 cs =>
    rcases Option.map_eq_some_iff.1 h with ⟨r', hr', rfl⟩
    exact Nat.lt_succ_of_lt (length_readDigits hr')
  case h_2 cs =>
    rcases Option.map_eq_some_iff.1 h with ⟨r', hr', rfl⟩
    exact Nat.lt_succ_of_lt (length_readDigits hr')
  case h_3 =>
    rcases Option.map_eq_some_iff.1 h with ⟨r', hr', rfl⟩
    exact length_readDigits hr'

theorem length_scan {c : Char} {cs : List Char} {x : Option Lexeme} {rest : List Char}
    (h : scan c cs = some (x, rest)) : rest.length ≤ cs.length := by
  -- one case for each sort of lexeme, tried in the order of `scan`
  unfold scan at h
  split at h
  case h_1 lexeme hquote =>
    rcases Option.map_eq_some_iff.1 h with ⟨r, hr, heq⟩
    cases heq
    exact length_readQuoted hr
  case h_2 hquote =>
    split at h
    case isTrue =>
      cases h
      exact List.length_dropWhile_le ..
    case isFalse =>
      split at h
      case h_1 r hr =>
        cases h
        exact Nat.le_of_lt_succ (length_readInt hr)
      case h_2 =>
        cases h
        exact Nat.le_refl _

/-- What an engine reads; `none` if a quote is left open. -/
def lex : List Char → Option (List Lexeme)
  | [] => some []
  | c :: cs =>
    match _h : scan c cs with
    | none => none
    | some (x, rest) => (lex rest).map (x.toList ++ ·)
termination_by cs => cs.length
decreasing_by exact Nat.lt_succ_of_le (length_scan _h)

theorem lex_nil : lex [] = some [] := by
  rw [lex]

theorem lex_cons {c : Char} {cs rest : List Char} {x : Option Lexeme}
    (h : scan c cs = some (x, rest)) : lex (c :: cs) = (lex rest).map (x.toList ++ ·) := by
  rw [lex]
  split
  case h_1 hnone =>
    rw [h] at hnone
    cases hnone
  case h_2 x' rest' hsome =>
    rw [h] at hsome
    cases hsome
    rfl

/-! ## Reading what was written -/

/-- Whether `c` ends what stands before it, be it a quoted text, a word or an integer. -/
def endsLexeme (c : Char) : Bool := !inWord c && (quoted? c).isNone

/-- Whether what stands before `rest` ends there. -/
def Bounded (rest : List Char) : Prop := ∀ c ∈ rest.head?, endsLexeme c = true

/-- Whether `s` is a word of letters, digits and underscores that starts with a letter. -/
def isWord (s : String) : Bool :=
  match s.toList with
  | c :: cs => c.isAlpha && cs.all inWord
  | [] => false

theorem exists_of_isWord {s : String} (h : isWord s = true) :
    ∃ c cs, s.toList = c :: cs ∧ c.isAlpha = true ∧ ∀ x ∈ cs, inWord x = true := by
  unfold isWord at h
  split at h
  case h_1 c cs hsplit =>
    rw [Bool.and_eq_true, List.all_eq_true] at h
    exact ⟨c, cs, hsplit, h⟩
  case h_2 => cases h

theorem isWord_of_toList {s : String} {c : Char} {cs : List Char} (hsplit : s.toList = c :: cs)
    (hc : c.isAlpha = true) (hcs : ∀ x ∈ cs, inWord x = true) : isWord s = true := by
  unfold isWord
  rw [hsplit]
  simp only [hc, Bool.true_and, List.all_eq_true]
  exact hcs

theorem inWord_of_isAlpha {c : Char} (h : c.isAlpha = true) : inWord c = true := by
  simp [inWord, Char.isAlphanum, h]

theorem inWord_of_isDigit {c : Char} (h : c.isDigit = true) : inWord c = true := by
  simp [inWord, Char.isAlphanum, h]

/-- No word goes on with a quote, so `c` is none if it may stand in a word. -/
theorem quoted?_of_inWord {c : Char} (h : inWord c = true) : quoted? c = none := by
  have hdouble : c ≠ '"' := by
    rintro rfl
    cases h
  have hsingle : c ≠ '\'' := by
    rintro rfl
    cases h
  rw [quoted?, if_neg hdouble, if_neg hsingle]

section Read

variable {rest : List Char}

theorem takeWhile_dropWhile_append {p : Char → Bool} {cs : List Char} (hcs : ∀ c ∈ cs, p c = true)
    (hrest : ∀ c ∈ rest.head?, p c = false) :
    (cs ++ rest).takeWhile p = cs ∧ (cs ++ rest).dropWhile p = rest := by
  rw [List.takeWhile_append_of_pos hcs, List.dropWhile_append_of_pos hcs]
  cases rest with
  | nil => simp
  | cons c rest =>
      have hc : p c = false := hrest c rfl
      simp [hc]

theorem Bounded.inWord (h : Bounded rest) : ∀ c ∈ rest.head?, inWord c = false := by
  intro c hc
  have hends := h c hc
  simp only [endsLexeme, Bool.and_eq_true, Bool.not_eq_true'] at hends
  exact hends.1

theorem Bounded.isDigit (h : Bounded rest) : ∀ c ∈ rest.head?, c.isDigit = false := by
  intro c hc
  have hword := h.inWord c hc
  -- a digit may stand in a word, and here nothing may
  simp only [Sql.inWord, Char.isAlphanum, Bool.or_eq_false_iff] at hword
  exact hword.1.2

/-- Doubled quotes are read as the quotes that they stand for, up to the one that is not doubled.
The text `body` is read back. -/
theorem readQuoted_doubled {quote : Char} (h : quote ∉ rest.head?) (body : List Char) :
    readQuoted quote
        (body.flatMap (fun c => if c = quote then [c, c] else [c]) ++ quote :: rest) =
      some (body, rest) := by
  induction body with
  | nil =>
      cases rest with
      | nil => simp [readQuoted]
      | cons d rest =>
          -- the closing quote is not doubled, because what follows is no quote
          have hd : d ≠ quote := by simpa using h
          simp [readQuoted, hd]
  | cons c body ih =>
      by_cases hc : c = quote
      · -- a doubled quote is one quote of the text, and reading goes on behind it
        subst hc
        simp [readQuoted, ih]
      · have hskip : ∀ cs, readQuoted quote (c :: cs) =
            (readQuoted quote cs).map fun r => (c :: r.1, r.2) := by
          intro cs
          cases cs with
          | nil => simp [readQuoted, hc]
          | cons d cs => simp [readQuoted, hc]
        simp only [List.flatMap_cons, if_neg hc, List.cons_append, List.nil_append]
        rw [hskip, ih]
        rfl

/-- A text `s` between quotes is read as `s`, whatever it holds. -/
theorem lex_quotedBy (h : Bounded rest) {quote : Char} {lexeme : String → Lexeme}
    (hquote : quoted? quote = some lexeme) (s : String) :
    lex (quotedBy quote s ++ rest) = (lex rest).map (lexeme s :: ·) := by
  -- a quote right behind the text would be read as a part of it
  have hend : quote ∉ rest.head? := by
    intro hmem
    have hends := h quote hmem
    simp [endsLexeme, hquote] at hends
  have hscan : scan quote (s.toList.flatMap (fun c => if c = quote then [c, c] else [c]) ++
      quote :: rest) = some (some (lexeme s), rest) := by
    simp [scan, hquote, readQuoted_doubled hend]
  have hlex := lex_cons hscan
  simpa [quotedBy] using hlex

theorem lex_word (h : Bounded rest) {w : String} (hw : isWord w = true) :
    lex (w.toList ++ rest) = (lex rest).map (Lexeme.word w :: ·) := by
  rcases exists_of_isWord hw with ⟨c, cs, hsplit, hc, hcs⟩
  have hstart : startsWord c = true := by
    simp [startsWord, hc]
  rcases takeWhile_dropWhile_append hcs h.inWord with ⟨htake, hdrop⟩
  have hword : String.ofList (c :: cs) = w := by
    rw [← hsplit, String.ofList_toList]
  -- the word is read up to the first character that it cannot go on with, which is where `rest`
  -- starts
  have hscan : scan c (cs ++ rest) = some (some (.word w), rest) := by
    unfold scan
    rw [quoted?_of_inWord (inWord_of_isAlpha hc)]
    simp only
    rw [if_pos hstart, htake, hdrop, hword]
  rw [hsplit, List.cons_append, lex_cons hscan]
  rfl

theorem readDigits_of_not_digit {c : Char} (h : c.isDigit = false) (cs : List Char) :
    readDigits (c :: cs) = none := by
  unfold readDigits
  rw [List.takeWhile_cons, h]
  rfl

/-- The digits of `n` are read as `n`. -/
theorem readDigits_toDigits (h : Bounded rest) (n : Nat) :
    readDigits (Nat.toDigits 10 n ++ rest) = some (n, rest) := by
  have hdigits : ∀ c ∈ Nat.toDigits 10 n, c.isDigit = true := by
    intro c hc
    exact Nat.isDigit_of_mem_toDigits (by decide) (by decide) hc
  rcases takeWhile_dropWhile_append hdigits h.isDigit with ⟨htake, hdrop⟩
  have hsome : Nat.toDigits 10 n ≠ [] := List.length_pos_iff.1 Nat.length_toDigits_pos
  unfold readDigits
  rw [htake, hdrop]
  split
  case h_1 hnil => exact absurd hnil hsome
  case h_2 => rw [Nat.ofDigitChars_ten_toDigits]

/-- A character `c` that ends a lexeme starts none but punctuation, a sign apart. -/
theorem scan_of_endsLexeme {c : Char} (hends : endsLexeme c = true) (hminus : c ≠ '-')
    (hplus : c ≠ '+') :
    scan c rest = some (if c.isWhitespace then none else some (.mark c), rest) := by
  simp only [endsLexeme, inWord, Char.isAlphanum, Bool.and_eq_true, Bool.not_eq_true',
    Bool.or_eq_false_iff, decide_eq_false_iff_not, Option.isNone_iff_eq_none] at hends
  rcases hends with ⟨⟨⟨halpha, hdigit⟩, hunderscore⟩, hquote⟩
  -- the character starts neither a quoted text nor a word nor digits
  have hstart : ¬startsWord c = true := by
    simp [startsWord, halpha, hunderscore]
  have hint : readInt (c :: rest) = none := by
    unfold readInt
    split
    case h_1 heq => exact absurd (List.cons.inj heq).1 hminus
    case h_2 heq => exact absurd (List.cons.inj heq).1 hplus
    case h_3 =>
      rw [readDigits_of_not_digit hdigit]
      rfl
  unfold scan
  rw [hquote]
  simp only
  rw [if_neg hstart, hint]

/-- A character `c` of punctuation is read by itself. -/
theorem lex_mark {c : Char} (hends : endsLexeme c = true) (hminus : c ≠ '-') (hplus : c ≠ '+')
    (hc : c.isWhitespace = false) : lex (c :: rest) = (lex rest).map (Lexeme.mark c :: ·) := by
  have hscan : scan c rest = some (some (.mark c), rest) := by
    rw [scan_of_endsLexeme hends hminus hplus, hc]
    rfl
  rw [lex_cons hscan]
  rfl

/-- White space `c` is skipped. -/
theorem lex_blank {c : Char} (hends : endsLexeme c = true) (hminus : c ≠ '-') (hplus : c ≠ '+')
    (hc : c.isWhitespace = true) : lex (c :: rest) = lex rest := by
  have hscan : scan c rest = some (none, rest) := by
    rw [scan_of_endsLexeme hends hminus hplus, hc]
    rfl
  rw [lex_cons hscan]
  cases lex rest with
  | none => rfl
  | some lexemes => rfl

theorem readInt_minus (cs : List Char) :
    readInt ('-' :: cs) = (readDigits cs).map fun r => (-(r.1 : Int), r.2) := rfl

theorem readInt_of_digit {c : Char} (h : c.isDigit = true) (cs : List Char) :
    readInt (c :: cs) = (readDigits (c :: cs)).map fun r => ((r.1 : Int), r.2) := by
  unfold readInt
  split
  case h_1 heq =>
    cases heq
    cases h
  case h_2 heq =>
    cases heq
    cases h
  case h_3 => rfl

theorem not_startsWord_of_digit {c : Char} (h : c.isDigit = true) : ¬startsWord c = true := by
  -- digits are among the first characters, which can be tried one by one
  have hplain : ∀ n < 0x80, (Char.ofNat n).isDigit = true → ¬startsWord (Char.ofNat n) = true := by
    decide
  have hlt : c.toNat < 0x80 := Nat.lt_of_le_of_lt (Char.isDigit_iff_toNat.1 h).2 (by decide)
  have hc := hplain c.toNat hlt
  rw [Char.ofNat_toNat] at hc
  exact hc h

/-- What starts with a digit or with a minus sign is read as an integer, if `readInt` finds one. -/
theorem lex_readInt {c : Char} {cs : List Char} {n : Int} (hc : c.isDigit = true ∨ c = '-')
    (h : readInt (c :: cs) = some (n, rest)) :
    lex (c :: cs) = (lex rest).map (Lexeme.int n :: ·) := by
  have hquote : quoted? c = none := by
    rcases hc with hc | rfl
    · exact quoted?_of_inWord (inWord_of_isDigit hc)
    · rfl
  have hstart : ¬startsWord c = true := by
    rcases hc with hc | rfl
    · exact not_startsWord_of_digit hc
    · decide
  have hscan : scan c cs = some (some (.int n), rest) := by
    unfold scan
    rw [hquote]
    simp only
    rw [if_neg hstart, h]
  rw [lex_cons hscan]
  rfl

theorem lex_int (h : Bounded rest) (n : Int) :
    lex ((toString n).toList ++ rest) = (lex rest).map (Lexeme.int n :: ·) := by
  have hrepr : toString n = n.repr := rfl
  -- only a negative number has a sign
  rw [hrepr, Int.repr_eq_if]
  split
  case isTrue hn =>
    have hread := readDigits_toDigits h n.toNat
    rw [Nat.repr_eq_ofList_toDigits, String.toList_ofList]
    cases hdigits : Nat.toDigits 10 n.toNat with
    | nil => exact absurd hdigits (List.length_pos_iff.1 Nat.length_toDigits_pos)
    | cons c cs =>
        have hc : c.isDigit = true := by
          apply Nat.isDigit_of_mem_toDigits (b := 10) (n := n.toNat) (by decide) (by decide)
          rw [hdigits]
          exact List.mem_cons_self
        rw [hdigits, List.cons_append] at hread
        have hint : readInt (c :: (cs ++ rest)) = some (n, rest) := by
          rw [readInt_of_digit hc, hread, Option.map_some, Int.toNat_of_nonneg hn]
        exact lex_readInt (.inl hc) hint
  case isFalse hn =>
    have hread := readDigits_toDigits h (-n).toNat
    have hvalue : -((-n).toNat : Int) = n := by omega
    have hint : readInt ('-' :: (Nat.toDigits 10 (-n).toNat ++ rest)) = some (n, rest) := by
      rw [readInt_minus, hread, Option.map_some, hvalue]
    have hdigits : ("-" ++ (-n).toNat.repr).toList = '-' :: Nat.toDigits 10 (-n).toNat := by
      rw [String.toList_append, Nat.repr_eq_ofList_toDigits, String.toList_ofList,
        String.toList_ofList, List.singleton_append]
    rw [hdigits]
    exact lex_readInt (.inr rfl) hint

end Read

/-! ## Function names -/

/-- The characters of words are plain letters, digits and underscores, so `c` is an ASCII
character. -/
theorem toNat_lt_of_inWord {c : Char} (h : inWord c = true) : c.toNat < 0x80 := by
  have hranges : ((decide ('A'.val ≤ c.val ∧ c.val ≤ 'Z'.val) ||
      ('a'.val ≤ c.val && c.val ≤ 'z'.val)) || ('0'.val ≤ c.val && c.val ≤ '9'.val) ||
      c = '_') = true := h
  simp only [Bool.or_eq_true, Bool.and_eq_true, decide_eq_true_eq, UInt32.le_iff_toNat_le]
    at hranges
  rcases hranges with (((⟨-, hc⟩ | ⟨-, hc⟩) | ⟨-, hc⟩) | rfl)
  · exact Nat.lt_of_le_of_lt hc (by decide)
  · exact Nat.lt_of_le_of_lt hc (by decide)
  · exact Nat.lt_of_le_of_lt hc (by decide)
  · decide

theorem upperChar_of_inWord {c : Char} (h : inWord c = true) : Text.upperChar c = [c.toUpper] := by
  unfold Text.upperChar
  rw [if_pos (toNat_lt_of_inWord h)]

/-- In upper case, a character of a word may stand in a word again, and a letter is a letter. -/
theorem toUpper_of_inWord {c : Char} (h : inWord c = true) :
    inWord c.toUpper = true ∧ (c.isAlpha = true → c.toUpper.isAlpha = true) := by
  -- there are few characters of words, so all of them are tried
  have hplain : ∀ n < 0x80, inWord (Char.ofNat n) = true →
      inWord (Char.ofNat n).toUpper = true ∧
        ((Char.ofNat n).isAlpha = true → (Char.ofNat n).toUpper.isAlpha = true) := by
    decide
  have hc := hplain c.toNat (toNat_lt_of_inWord h)
  rw [Char.ofNat_toNat] at hc
  exact hc h

theorem isWord_upper {s : String} (h : isWord s = true) : isWord (Text.upper s) = true := by
  rcases exists_of_isWord h with ⟨c, cs, hsplit, hc, hcs⟩
  have hstart : inWord c = true := inWord_of_isAlpha hc
  have hupper : (Text.upper s).toList = c.toUpper :: cs.map Char.toUpper := by
    have hrest : cs.flatMap Text.upperChar = cs.map Char.toUpper := by
      rw [List.map_eq_flatMap]
      apply List.flatMap_congr
      intro x hx
      exact upperChar_of_inWord (hcs x hx)
    rw [Text.upper, String.toList_ofList, hsplit, List.flatMap_cons, upperChar_of_inWord hstart,
      hrest]
    rfl
  apply isWord_of_toList hupper
  · exact (toUpper_of_inWord hstart).2 hc
  · intro x hx
    rcases List.mem_map.1 hx with ⟨y, hy, rfl⟩
    exact (toUpper_of_inWord (hcs y hy)).1

/-- The name that the dialect `d` has for a function is a word if `name` is. -/
theorem isWord_functionName {name : String} (h : isWord name = true) (d : Dialect) :
    isWord (d.functionName name) = true := by
  -- the names that PostgreSQL has of its own are words, each by itself
  have hpostgres : ∀ upper known, Dialect.postgresName? upper = some known →
      isWord known = true := by
    intro upper known hknown
    unfold Dialect.postgresName? at hknown
    split at hknown
    case h_5 => cases hknown
    all_goals
      cases hknown
      decide
  unfold Dialect.functionName
  cases hremap : d.remap? name with
  | none => exact isWord_upper h
  | some known =>
      cases d with
      | postgres => exact hpostgres _ _ hremap
      | sqlite => cases hremap
      | duckdb => cases hremap

/-! ## Tokens -/

namespace Token

/-- What a token is read as: nothing if it is white space, one lexeme otherwise, and two for the
words `GROUP BY`. -/
def lexemes (d : Dialect) : Token → List Lexeme
  | selectKw => [.word "SELECT"]
  | fromKw => [.word "FROM"]
  | whereKw => [.word "WHERE"]
  | andKw => [.word "AND"]
  | asKw => [.word "AS"]
  | leftKw => [.word "LEFT"]
  | joinKw => [.word "JOIN"]
  | onKw => [.word "ON"]
  | groupByKw => [.word "GROUP", .word "BY"]
  | comma => [.mark ',']
  | dot => [.mark '.']
  | star => [.mark '*']
  | openParen => [.mark '(']
  | closeParen => [.mark ')']
  | equals => [.mark '=']
  | greater => [.mark '>']
  | space | newline | indent _ => []
  | ident name => [.ident name]
  | int n => [.int n]
  | text s => [.text s]
  | null => [.word "NULL"]
  | function name => [.word (d.functionName name)]

/-- Whether a token is punctuation or white space. -/
def separates : Token → Bool
  | comma | dot | star | openParen | closeParen | equals | greater | space | newline => true
  | indent depth => 0 < depth
  | _ => false

/-- Whether punctuation or white space stands between any two of the tokens `ts` that are
neither. -/
def Apart (ts : List Token) : Prop := ts.IsChain fun a b => a.separates = true ∨ b.separates = true

/-- Whether every function that `ts` calls is named by a word. -/
def Named (ts : List Token) : Prop := ∀ name, function name ∈ ts → isWord name = true

/-- A token `t` of punctuation or white space ends what stands before it. -/
theorem bounded_spell {t : Token} (h : t.separates = true) (d : Dialect) (rest : List Char) :
    Bounded (t.spell d ++ rest) := by
  intro c hc
  -- only the first character counts, and for each of these tokens it is fixed
  cases t with
  | comma | dot | star | openParen | closeParen | equals | greater | space | newline =>
    obtain rfl := Option.some.inj hc
    decide
  | indent depth =>
    cases depth with
    | zero => cases h
    | succ depth =>
      obtain rfl := Option.some.inj hc
      decide
  | _ => cases h

theorem lex_replicate (n : Nat) (rest : List Char) :
    lex (List.replicate n ' ' ++ rest) = lex rest := by
  induction n with
  | zero => rfl
  | succ n ih =>
      rw [List.replicate_succ, List.cons_append,
        lex_blank (by decide) (by decide) (by decide) (by decide), ih]

/-- The keyword `GROUP BY` is read as two words. -/
theorem lex_groupBy {rest : List Char} (hrest : Bounded rest) :
    lex ("GROUP BY".toList ++ rest) = (lex rest).map ([.word "GROUP", .word "BY"] ++ ·) := by
  have hblank : Bounded (' ' :: ("BY".toList ++ rest)) := by
    intro c hc
    obtain rfl := Option.some.inj hc
    decide
  have hfirst := lex_word hblank (w := "GROUP") (by decide)
  have hsecond := lex_word hrest (w := "BY") (by decide)
  rw [lex_blank (by decide) (by decide) (by decide) (by decide), hsecond, Option.map_map] at hfirst
  exact hfirst

/-- A token `t` is read back from its text, if this ends where the token ends. -/
theorem lex_spell {t : Token} (d : Dialect) {rest : List Char}
    (hend : t.separates = true ∨ Bounded rest)
    (hname : ∀ name, t = function name → isWord name = true) :
    lex (t.spell d ++ rest) = (lex rest).map (t.lexemes d ++ ·) := by
  have hrest : t.separates = false → Bounded rest := by
    intro hsolid
    rcases hend with hseparates | hrest
    · rw [hsolid] at hseparates
      cases hseparates
    · exact hrest
  -- a token that separates nothing must be ended by what follows
  cases t with
  | selectKw | fromKw | whereKw | andKw | asKw | leftKw | joinKw | onKw | null =>
    exact lex_word (hrest rfl) (by decide)
  | groupByKw => exact lex_groupBy (hrest rfl)
  | comma | dot | star | openParen | closeParen | equals | greater =>
    exact lex_mark (by decide) (by decide) (by decide) (by decide)
  | space | newline =>
    simp only [lexemes, List.nil_append, Option.map_id_fun']
    exact lex_blank (by decide) (by decide) (by decide) (by decide)
  | indent depth =>
    simp only [lexemes, List.nil_append, Option.map_id_fun']
    exact lex_replicate (2 * depth) rest
  | ident name => exact lex_quotedBy (hrest rfl) rfl name
  | int n => exact lex_int (hrest rfl) n
  | text s => exact lex_quotedBy (hrest rfl) rfl s
  | function name => exact lex_word (hrest rfl) (isWord_functionName (hname name rfl) d)

/-- Tokens `ts` that stand apart are read back from their text. -/
theorem lex_flatMap_spell {ts : List Token} (d : Dialect) (hapart : Apart ts) (hnamed : Named ts) :
    lex (ts.flatMap (spell d)) = some (ts.flatMap (lexemes d)) := by
  induction ts with
  | nil => exact lex_nil
  | cons t ts ih =>
      rw [Apart, List.isChain_cons] at hapart
      have hnamed' : Named ts := by
        intro name hmem
        exact hnamed name (List.mem_cons_of_mem t hmem)
      -- the text of the next token ends this one, unless this one needs no end
      have hend : t.separates = true ∨ Bounded (ts.flatMap (spell d)) := by
        cases ts with
        | nil =>
            right
            intro c hc
            cases hc
        | cons u ts =>
            rcases hapart.1 u rfl with ht | hu
            · exact .inl ht
            · exact .inr (bounded_spell hu d _)
      have hname : ∀ name, t = function name → isWord name = true := by
        rintro name rfl
        exact hnamed name List.mem_cons_self
      rw [List.flatMap_cons, lex_spell d hend hname, ih hapart.2 hnamed', Option.map_some,
        List.flatMap_cons]

end Token

end LinkedRecords.Sql
