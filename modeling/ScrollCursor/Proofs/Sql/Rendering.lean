import ScrollCursor.Proofs.Results
import ScrollCursor.Proofs.Sql.LineFeeds
import ScrollCursor.WriteBack.Fragment

/-! # Scanning rendered predicates

Names in backticks, literals and the words between them are read without ending inside of
anything: after a literal or a name the scanner is outside of literals, names and comments again.
The line feeds of a predicate all stand in its quoted names.
-/

namespace ScrollCursor

namespace Sql

/-- Read from the mode, the characters leave the scanner outside of literals, quoted names and
comments, and every line feed among them stands in a quoted name. -/
def ReadsThrough (mode : Mode) (cs : List Char) : Prop :=
  ∀ offset, (modeAfter mode offset cs).isOpen = true ∧ namedFeeds mode offset cs = cs.count '\n'

namespace ReadsThrough

variable {mode : Mode} {cs ds : List Char}

theorem nil (h : mode.isOpen = true) : ReadsThrough mode [] :=
  fun _ => ⟨h, rfl⟩

/-- Two pieces are read through if the second is in whatever open state the first ends in. -/
theorem append (hcs : ReadsThrough mode cs)
    (hds : ∀ after : Mode, after.isOpen = true → ReadsThrough after ds) :
    ReadsThrough mode (cs ++ ds) := by
  intro offset
  have ⟨hopen, hfeeds⟩ := hcs offset
  have ⟨hopen', hfeeds'⟩ := hds _ hopen (offset + byteSize cs)
  rw [modeAfter_append, namedFeeds_append, List.count_append]
  exact ⟨hopen', by rw [hfeeds, hfeeds']⟩

/-- Without line feeds only the last mode matters. -/
theorem of_isOpen (hfeed : '\n' ∉ cs)
    (h : ∀ offset, (modeAfter mode offset cs).isOpen = true) : ReadsThrough mode cs := by
  intro offset
  have hle := namedFeeds_le mode offset cs
  rw [List.count_eq_zero.mpr hfeed] at hle ⊢
  exact ⟨h offset, Nat.le_zero.mp hle⟩

end ReadsThrough

/-! ## Quoted names -/

/-- The scanner reads a doubled backtick as one character of the name. -/
theorem modeAfter_doubled (start : Nat) (chars : List Char) (offset : Nat) (cs : List Char) :
    modeAfter (.name start chars) offset (Text.doubled '\x60' cs) = .name start (chars ++ cs) ∧
      namedFeeds (.name start chars) offset (Text.doubled '\x60' cs) =
        (Text.doubled '\x60' cs).count '\n' := by
  induction cs generalizing chars offset with
  | nil => exact ⟨by rw [List.append_nil]; rfl, rfl⟩
  | cons c cs ih =>
      rw [Text.doubled, List.flatMap_cons, ← Text.doubled]
      by_cases hc : c = '\x60'
      · subst hc
        have ⟨hmode, hfeeds⟩ := ih (chars ++ ['\x60']) (offset + 1 + 1)
        rw [List.append_assoc] at hmode
        refine ⟨hmode, ?_⟩
        change 0 + (0 + namedFeeds (.name start (chars ++ ['\x60'])) (offset + 1 + 1)
          (Text.doubled '\x60' cs)) = _
        rw [hfeeds, Nat.zero_add, Nat.zero_add]
        rfl
      · have ⟨hmode, hfeeds⟩ := ih (chars ++ [c]) (offset + c.utf8Size)
        rw [List.append_assoc] at hmode
        have hstep : Mode.step offset (.name start chars) c = (.name start (chars ++ [c]), []) := by
          rw [Mode.step, if_neg hc]
        rw [if_neg hc, List.singleton_append, modeAfter, namedFeeds, hstep, hfeeds]
        refine ⟨hmode, ?_⟩
        rw [List.count_cons, Mode.feed, Nat.add_comm]
        rfl

/-- A backtick outside of literals, quoted names and comments begins or continues a name. -/
theorem step_backtick {mode : Mode} (offset : Nat) (h : mode.isOpen = true) :
    ∃ start chars, (mode.step offset '\x60').1 = .name start chars := by
  have hword : ¬ isWordChar '\x60' = true := by decide
  cases mode with
  | plain => exact ⟨offset, [], rfl⟩
  | word start chars =>
      rw [Mode.step, if_neg hword]
      exact ⟨offset, [], rfl⟩
  | nameQuote start chars => exact ⟨start, chars ++ ['\x60'], rfl⟩
  | hyphen start => exact ⟨offset, [], rfl⟩
  | slash start => exact ⟨offset, [], rfl⟩
  | name | literal | literalEscape | lineComment | blockComment | blockStar => cases h

/-- A quoted name is left where it was entered. -/
theorem readsThrough_quoteIdentifier {mode : Mode} (name : String) (h : mode.isOpen = true) :
    ReadsThrough mode (quoteIdentifier .backtick name).toList := by
  intro offset
  obtain ⟨start, chars, hstep⟩ := step_backtick offset h
  have ⟨hmode, hfeeds⟩ := modeAfter_doubled start chars (offset + 1) name.toList
  have htext : (quoteIdentifier .backtick name).toList =
      '\x60' :: (Text.doubled '\x60' name.toList ++ ['\x60']) := by
    rw [quoteIdentifier, Text.quoteName, String.toList_ofList]
    rfl
  have hfeed : mode.feed '\x60' = 0 := by
    rw [Mode.feed, show ('\x60' == '\n') = false from rfl, Bool.and_false,
      if_neg Bool.false_ne_true]
  have hsize : offset + '\x60'.utf8Size = offset + 1 := rfl
  rw [htext, modeAfter, namedFeeds, hstep, hfeed, hsize, modeAfter_append, namedFeeds_append,
    hmode, hfeeds, List.count_cons_of_ne (by decide), List.count_append, Nat.zero_add]
  exact ⟨rfl, rfl⟩

/-! ## String and hexadecimal literals -/

/-- A character that begins neither a name nor a comment, nor joins on to what went before, is
read as in plain text. -/
theorem step_of_isOpen {mode : Mode} {c : Char} (offset : Nat) (h : mode.isOpen = true)
    (hword : isWordChar c = false) (hname : c ≠ '\x60') (hhyphen : c ≠ '-') (hstar : c ≠ '*') :
    mode.step offset c =
      ((Mode.ofPlain offset c).1, mode.finish ++ (Mode.ofPlain offset c).2) := by
  cases mode with
  | plain => rfl
  | word start chars => simp [Mode.step, hword]
  | nameQuote start chars => simp [Mode.step, hname]
  | hyphen start => simp [Mode.step, hhyphen]
  | slash start => simp [Mode.step, hstar]
  | name | literal | literalEscape | lineComment | blockComment | blockStar => cases h

/-- Characters that mean nothing inside of a literal stand in it. -/
theorem modeAfter_literal (quote : Char) (offset : Nat) {cs : List Char} (hquote : quote ∉ cs)
    (hescape : '\\' ∉ cs) : modeAfter (.literal quote) offset cs = .literal quote := by
  induction cs generalizing offset with
  | nil => rfl
  | cons c cs ih =>
      have hc : c ≠ quote := Ne.symm (List.ne_of_not_mem_cons hquote)
      have hc' : c ≠ '\\' := Ne.symm (List.ne_of_not_mem_cons hescape)
      rw [modeAfter, Mode.step, if_neg hc, if_neg hc']
      exact ih _ (List.not_mem_of_not_mem_cons hquote) (List.not_mem_of_not_mem_cons hescape)

/-- The characters that stand nowhere in the body of a literal. -/
def controls : List Char :=
  ['\x00', '\n', '\r', '\x1a']

/-- A character is escaped by a backslash and a letter, or it stands for itself. -/
theorem escapeChar_cases (c : Char) :
    (∃ letter, Text.escapeChar c = ['\\', letter] ∧ letter ∉ controls) ∨
      Text.escapeChar c = [c] ∧ c ≠ '\'' ∧ c ≠ '"' ∧ c ≠ '\\' ∧ c ∉ controls := by
  unfold Text.escapeChar Text.escapeLetter?
  split
  next letter h =>
    refine Or.inl ⟨letter, rfl, ?_⟩
    split at h <;> cases h <;> decide
  next h =>
    have hnone : ∀ d ∈ '\'' :: '"' :: '\\' :: controls, c ≠ d := by
      rintro d hd rfl
      simp only [controls, List.mem_cons, List.not_mem_nil, or_false] at hd
      rcases hd with rfl | rfl | rfl | rfl | rfl | rfl | rfl <;> cases h
    exact Or.inr ⟨rfl, hnone _ (by decide), hnone _ (by decide), hnone _ (by decide),
      fun hc => hnone c (by simp [hc]) rfl⟩

/-- An escaped text does not end the literal it stands in. -/
theorem modeAfter_escape (offset : Nat) (cs : List Char) :
    modeAfter (.literal '\'') offset (Text.escape cs) = .literal '\'' := by
  induction cs generalizing offset with
  | nil => rfl
  | cons c cs ih =>
      rw [Text.escape, List.flatMap_cons, ← Text.escape, modeAfter_append]
      obtain ⟨letter, hchar, -⟩ | ⟨hchar, hquote, -, hescape, -⟩ := escapeChar_cases c
      · rw [hchar]
        exact ih _
      · rw [hchar, modeAfter_literal]
        · exact ih _
        · exact fun h => hquote (List.mem_singleton.mp h).symm
        · exact fun h => hescape (List.mem_singleton.mp h).symm

/-- No control character is left in an escaped text. -/
theorem not_mem_escape {control : Char} (hcontrol : control ∈ controls) (cs : List Char) :
    control ∉ Text.escape cs := by
  intro h
  obtain ⟨c, -, hmem⟩ := List.mem_flatMap.mp h
  obtain ⟨letter, hchar, hletter⟩ | ⟨hchar, -, -, -, hc⟩ := escapeChar_cases c
  · rw [hchar] at hmem
    rcases List.mem_cons.mp hmem with rfl | hmem
    · exact absurd hcontrol (by decide)
    · exact hletter (List.mem_singleton.mp hmem ▸ hcontrol)
  · rw [hchar] at hmem
    exact hc (List.mem_singleton.mp hmem ▸ hcontrol)

/-- A string literal is left at its closing quote. -/
theorem readsThrough_quoteString (s : String) :
    ReadsThrough .plain (Text.quoteString s).toList := by
  have htext : (Text.quoteString s).toList = '\'' :: (Text.escape s.toList ++ ['\'']) := by
    rw [Text.quoteString, String.toList_ofList, List.cons_append]
  rw [htext]
  refine .of_isOpen ?_ ?_
  · have hbody : '\n' ∉ Text.escape s.toList := not_mem_escape (by decide) s.toList
    simp [hbody]
  · intro offset
    have hstep : Mode.plain.step offset '\'' = (.literal '\'', []) := rfl
    rw [modeAfter, hstep, modeAfter_append, modeAfter_escape]
    rfl

theorem hexDigits_spec :
    ∀ n < 16, (Text.Hex.digit n).toUpper ∉ ['\'', '\\', '\n'] := by
  decide

/-- Hexadecimal digits hold no quote, no backslash and no line feed. -/
theorem not_mem_hexUpper {c : Char} (hc : c ∈ ['\'', '\\', '\n']) (bytes : Text.Bytes) :
    c ∉ (Text.Hex.upper bytes).toList := by
  intro h
  rw [Text.Hex.upper, String.toList_ofList, Text.Hex.encode] at h
  obtain ⟨d, hd, rfl⟩ := List.mem_map.mp h
  obtain ⟨b, -, hdigits⟩ := List.mem_flatMap.mp hd
  have hbyte : b.toNat < 256 := b.toNat_lt
  rcases List.mem_cons.mp hdigits with hdigit | hdigit
  · rw [hdigit] at hc
    exact hexDigits_spec _ (by omega) hc
  · rw [List.mem_singleton.mp hdigit] at hc
    exact hexDigits_spec _ (by omega) hc

/-- A hexadecimal literal is left at its closing quote. -/
theorem readsThrough_hexLiteral (bytes : Text.Bytes) :
    ReadsThrough .plain (hexLiteral bytes).toList := by
  have htext : (hexLiteral bytes).toList =
      'X' :: '\'' :: ((Text.Hex.upper bytes).toList ++ ['\'']) := by
    rw [hexLiteral, String.toList_append, String.toList_append, List.append_assoc]
    rfl
  rw [htext]
  refine .of_isOpen ?_ ?_
  · have hbody := not_mem_hexUpper (c := '\n') (by decide) bytes
    simp [hbody]
  · intro offset
    have hstep : Mode.plain.step offset 'X' = (.word offset ['X'], []) := rfl
    have hquote : ((Mode.word offset ['X']).step (offset + 1) '\'').1 = .literal '\'' := rfl
    rw [modeAfter, hstep, modeAfter]
    change (modeAfter ((Mode.word offset ['X']).step (offset + 1) '\'').1 _ _).isOpen = true
    rw [hquote, modeAfter_append,
      modeAfter_literal _ _ (not_mem_hexUpper (by decide) _) (not_mem_hexUpper (by decide) _)]
    rfl

/-! ## Numerals -/

/-- The characters that begin or end a literal, a name or a comment, and the line feed. -/
def marks : List Char :=
  ['\'', '"', '\x60', '#', '-', '/', '*', '\n']

theorem not_mem_marks_of_isDigit {c : Char} (h : c.isDigit = true) : c ∉ marks := by
  intro hmem
  have hmarks : marks.all (fun d => !d.isDigit) = true := by decide
  have hdigit := List.all_eq_true.mp hmarks c hmem
  rw [h] at hdigit
  cases hdigit

/-- The characters of a number without its sign and its exponent. -/
def isMantissaChar (c : Char) : Bool :=
  c.isDigit || c == '.'

theorem isMantissaChar_of_isDigit {c : Char} (h : c.isDigit = true) : isMantissaChar c = true := by
  rw [isMantissaChar, h, Bool.true_or]

/-- No character of a mantissa begins a comment, a literal or a quoted name. -/
theorem not_mem_marks_of_isMantissaChar {c : Char} (h : isMantissaChar c = true) : c ∉ marks := by
  rw [isMantissaChar, Bool.or_eq_true, beq_iff_eq] at h
  rcases h with h | rfl
  · exact not_mem_marks_of_isDigit h
  · decide

namespace Mode

/-- Outside of literals, quoted names and comments, with no hyphen or slash held back. -/
def isCalm : Mode → Bool
  | .plain | .word _ _ | .nameQuote _ _ => true
  | _ => false

theorem isOpen_of_isCalm {mode : Mode} (h : mode.isCalm = true) : mode.isOpen = true := by
  cases mode <;> first | rfl | cases h

theorem isCalm_ofPlain (offset : Nat) {c : Char} (h : c ∉ marks) :
    (ofPlain offset c).1.isCalm = true := by
  have hne : ∀ d ∈ marks, c ≠ d := by
    rintro d hd rfl
    exact h hd
  have hquote : ¬ (c = '\'' ∨ c = '"') :=
    not_or.mpr ⟨hne _ (by decide), hne _ (by decide)⟩
  rw [ofPlain, if_neg hquote, if_neg (hne _ (by decide)), if_neg (hne _ (by decide)),
    if_neg (hne _ (by decide)), if_neg (hne _ (by decide))]
  repeat' split
  all_goals rfl

/-- After a character that marks nothing, no comment and no literal can have begun. -/
theorem isCalm_step (offset : Nat) {mode : Mode} {c : Char} (hopen : mode.isOpen = true)
    (h : c ∉ marks) : (mode.step offset c).1.isCalm = true := by
  have hplain := isCalm_ofPlain offset h
  cases mode with
  | plain => exact hplain
  | word start chars | nameQuote start chars =>
      rw [step]
      split
      · first | rfl | exact absurd ‹c = _› (by rintro rfl; exact h (by decide))
      · exact hplain
  | hyphen start | slash start =>
      rw [step]
      split
      · exact absurd ‹c = _› (by rintro rfl; exact h (by decide))
      · exact hplain
  | name | literal | literalEscape | lineComment | blockComment | blockStar => cases hopen

end Mode

/-- Characters without a meaning of their own keep the scanner where it is. -/
theorem isCalm_modeAfter {mode : Mode} (offset : Nat) {cs : List Char}
    (hcalm : mode.isCalm = true) (h : ∀ c ∈ cs, c ∉ marks) :
    (modeAfter mode offset cs).isCalm = true := by
  induction cs generalizing mode offset with
  | nil => exact hcalm
  | cons c cs ih =>
      have hstep := Mode.isCalm_step offset (Mode.isOpen_of_isCalm hcalm) (h c List.mem_cons_self)
      exact ih _ hstep fun d hd => h d (List.mem_cons_of_mem c hd)

/-- A held-back hyphen does not matter to one or more such characters. -/
theorem isCalm_modeAfter_of_isOpen {mode : Mode} (offset : Nat) {cs : List Char}
    (hopen : mode.isOpen = true) (hne : cs ≠ []) (h : ∀ c ∈ cs, c ∉ marks) :
    (modeAfter mode offset cs).isCalm = true := by
  cases cs with
  | nil => exact absurd rfl hne
  | cons c cs =>
      have hstep := Mode.isCalm_step offset hopen (h c List.mem_cons_self)
      rw [modeAfter]
      exact isCalm_modeAfter _ hstep fun d hd => h d (List.mem_cons_of_mem c hd)

/-- A text without marks stays outside of comments and literals. -/
theorem isOpen_modeAfter_of_isOpen {mode : Mode} (offset : Nat) {cs : List Char}
    (hopen : mode.isOpen = true) (h : ∀ c ∈ cs, c ∉ marks) :
    (modeAfter mode offset cs).isOpen = true := by
  cases cs with
  | nil => exact hopen
  | cons c cs =>
      exact Mode.isOpen_of_isCalm (isCalm_modeAfter_of_isOpen offset hopen (by simp) h)

/-- A number with or without a minus sign. -/
theorem readsThrough_signed {cs : List Char} (h : ∀ c ∈ cs, c ∉ marks) (negative : Bool) :
    ReadsThrough .plain (if negative then '-' :: cs else cs) := by
  have hfeed : '\n' ∉ cs := fun hmem => h _ hmem (by decide)
  cases negative with
  | false => exact .of_isOpen hfeed fun offset => isOpen_modeAfter_of_isOpen offset rfl h
  | true =>
      refine .of_isOpen (by simp [hfeed]) fun offset => ?_
      have hhyphen : (Mode.hyphen offset).isOpen = true := rfl
      exact isOpen_modeAfter_of_isOpen (offset + 1) hhyphen h

/-- An integer is written as digits, perhaps with a minus sign. -/
theorem exists_digits_of_integer (n : Int) :
    ∃ (negative : Bool) (digits : List Char), (∀ c ∈ digits, c.isDigit = true) ∧
      (toString n).toList = if negative then '-' :: digits else digits := by
  have hdigits (m : Nat) : ∀ c ∈ m.repr.toList, c.isDigit = true := by
    intro c hc
    rw [Nat.toList_repr] at hc
    exact Nat.isDigit_of_mem_toDigits (by decide) (by decide) hc
  cases n with
  | ofNat m => exact ⟨false, _, hdigits m, rfl⟩
  | negSucc m =>
      refine ⟨true, _, hdigits (m + 1), ?_⟩
      change ("-" ++ (m + 1).repr).toList = _
      rw [String.toList_append]
      rfl

/-- An integer is a sign and digits, and is read through. -/
theorem readsThrough_integer (n : Int) : ReadsThrough .plain (toString n).toList := by
  obtain ⟨negative, digits, hdigits, htext⟩ := exists_digits_of_integer n
  rw [htext]
  exact readsThrough_signed (fun c hc => not_mem_marks_of_isDigit (hdigits c hc)) negative

/-! ### Floating-point numbers -/

theorem isDigit_of_mem_ofScaled {count : Nat} {scale : Int} {c : Char}
    (h : c ∈ (Digits.ofScaled count scale).digits) : c.isDigit = true := by
  have hmem := (List.dropWhile_sublist _).mem (List.mem_reverse.mp h)
  exact Nat.isDigit_of_mem_toDigits (by decide) (by decide) (List.mem_reverse.mp hmem)

/-- Whatever digits the search for a double ends with are digits. -/
theorem isDigit_of_mem_search (near : Digits.Neighbourhood) (tie : Digits.Tie) (more : Nat)
    (scale : Int) {c : Char} (h : c ∈ (near.search tie more scale).digits) :
    c.isDigit = true := by
  induction more generalizing scale with
  | zero => exact isDigit_of_mem_ofScaled h
  | succ more ih =>
      rw [Digits.Neighbourhood.search] at h
      split at h
      · exact isDigit_of_mem_ofScaled h
      · exact ih _ h

/-- A double without an exponent is written with digits, a point and a sign. -/
theorem isMantissaChar_of_mem_positional {d : Digits} (hdigits : ∀ c ∈ d.digits, c.isDigit = true) :
    ∀ c ∈ d.positional, isMantissaChar c = true := by
  have hdigit : ∀ c ∈ d.digits, isMantissaChar c = true :=
    fun c hc => isMantissaChar_of_isDigit (hdigits c hc)
  have hzero (n : Nat) : ∀ c ∈ Digits.zeros n, isMantissaChar c = true := by
    intro c hc
    rw [(List.mem_replicate.mp hc).2]
    decide
  intro c hc
  unfold Digits.positional at hc
  split at hc
  · rcases List.mem_append.mp hc with h | h
    · rcases List.mem_cons.mp h with rfl | h
      · decide
      · rcases List.mem_cons.mp h with rfl | h
        · decide
        · exact hzero _ c h
    · exact hdigit c h
  · dsimp only at hc
    split at hc
    · rcases List.mem_append.mp hc with h | h
      · exact hdigit c h
      · exact hzero _ c h
    · rcases List.mem_append.mp hc with h | h
      · exact hdigit c (List.mem_of_mem_take h)
      · rcases List.mem_cons.mp h with rfl | h
        · decide
        · exact hdigit c (List.mem_of_mem_drop h)

/-- A finite number is written as digits and points, perhaps with a minus sign. -/
theorem exists_mantissa_of_floatNumeral {x : Binary64} {text : String}
    (h : floatNumeral x = .ok text) :
    ∃ (negative : Bool) (mantissa : List Char), (∀ c ∈ mantissa, isMantissaChar c = true) ∧
      text.toList = if negative then '-' :: mantissa else mantissa := by
  have hsigned (body : List Char) :
      (x.signed body).toList = if x.isNegative then '-' :: body else body := by
    rw [Binary64.signed, String.toList_ofList]
  unfold floatNumeral at h
  split at h
  next hfinite =>
    cases h
    have hnan : x.isNaN = false := by
      unfold Binary64.isFinite at hfinite
      rw [Binary64.isNaN, beq_false_of_ne (by simpa using hfinite), Bool.false_and]
    rw [Binary64.plainText, hnan, hfinite]
    simp only [Bool.not_true, Bool.false_eq_true, if_false]
    split
    · exact ⟨_, ['0'], List.all_eq_true.mp (by decide), hsigned _⟩
    · exact ⟨_, _, isMantissaChar_of_mem_positional fun c hc => isDigit_of_mem_search _ _ _ _ hc,
        hsigned _⟩
  next => cases h

/-- The numeral of a double is read through. -/
theorem readsThrough_floatNumeral {x : Binary64} {text : String}
    (h : floatNumeral x = .ok text) : ReadsThrough .plain text.toList := by
  obtain ⟨negative, mantissa, hmantissa, htext⟩ := exists_mantissa_of_floatNumeral h
  rw [htext]
  exact readsThrough_signed (fun c hc => not_mem_marks_of_isMantissaChar (hmantissa c hc)) negative

/-! ### Numerals from texts -/

theorem isMantissaChar_of_isMantissa {cs : List Char} (h : Numeral.isMantissa cs = true) :
    cs ≠ [] ∧ ∀ c ∈ cs, isMantissaChar c = true := by
  simp only [Numeral.isMantissa, Bool.and_eq_true, List.any_eq_true] at h
  obtain ⟨⟨hall, c, hc, -⟩, -⟩ := h
  exact ⟨List.ne_nil_of_mem hc, List.all_eq_true.mp hall⟩

/-- A text is a sign and what is left without it. -/
theorem eq_append_dropSign (cs : List Char) :
    ∃ sign, cs = sign ++ Numeral.dropSign cs ∧ (sign = [] ∨ sign = ['-'] ∨ sign = ['+']) := by
  unfold Numeral.dropSign
  split
  · exact ⟨['-'], rfl, .inr (.inl rfl)⟩
  · exact ⟨['+'], rfl, .inr (.inr rfl)⟩
  · exact ⟨[], rfl, .inl rfl⟩

/-- A sign begins no comment. -/
theorem isOpen_modeAfter_sign {mode : Mode} (offset : Nat) {sign : List Char}
    (hcalm : mode.isCalm = true) (hsign : sign = [] ∨ sign = ['-'] ∨ sign = ['+']) :
    (modeAfter mode offset sign).isOpen = true := by
  rcases hsign with rfl | rfl | rfl
  · exact Mode.isOpen_of_isCalm hcalm
  · have hword : ¬ isWordChar '-' = true := by decide
    cases mode with
    | plain | nameQuote => rfl
    | word start chars =>
        rw [modeAfter, Mode.step, if_neg hword]
        rfl
    | hyphen | slash | name | literal | literalEscape | lineComment | blockComment | blockStar =>
        cases hcalm
  · exact Mode.isOpen_of_isCalm (Mode.isCalm_step offset (Mode.isOpen_of_isCalm hcalm) (by decide))

/-- A sign and one or more characters without a meaning of their own. -/
theorem isCalm_modeAfter_sign {mode : Mode} (offset : Nat) {sign cs : List Char}
    (hcalm : mode.isCalm = true) (hsign : sign = [] ∨ sign = ['-'] ∨ sign = ['+'])
    (hne : cs ≠ []) (h : ∀ c ∈ cs, c ∉ marks) :
    (modeAfter mode offset (sign ++ cs)).isCalm = true := by
  rw [modeAfter_append]
  exact isCalm_modeAfter_of_isOpen _ (isOpen_modeAfter_sign offset hcalm hsign) hne h

/-- An exponent begins no comment, and does not end the line. -/
theorem isCalm_modeAfter_isExponent {mode : Mode} (offset : Nat) {cs : List Char}
    (hcalm : mode.isCalm = true) (h : Numeral.isExponent cs = true) :
    (modeAfter mode offset cs).isCalm = true ∧ '\n' ∉ cs := by
  simp only [Numeral.isExponent, Bool.and_eq_true, Bool.not_eq_true', List.all_eq_true] at h
  obtain ⟨hne, hdigits⟩ := h
  have hbody : ∀ c ∈ Numeral.dropSign cs, c ∉ marks :=
    fun c hc => not_mem_marks_of_isDigit (hdigits c hc)
  obtain ⟨sign, hcs, hsign⟩ := eq_append_dropSign cs
  rw [hcs]
  refine ⟨isCalm_modeAfter_sign offset hcalm hsign (List.isEmpty_eq_false_iff.mp hne) hbody, ?_⟩
  intro hmem
  rcases List.mem_append.mp hmem with hmem | hmem
  · rcases hsign with rfl | rfl | rfl <;> exact absurd hmem (by decide)
  · exact hbody _ hmem (by decide)

/-- What ends a mantissa is an exponent mark. -/
theorem eq_exponentMark {cs exponent : List Char} {mark : Char}
    (h : cs.dropWhile Numeral.notExponentMark = mark :: exponent) : mark = 'e' ∨ mark = 'E' := by
  have hhead := List.head_dropWhile_not Numeral.notExponentMark
    (show cs.dropWhile Numeral.notExponentMark ≠ [] by rw [h]; exact List.cons_ne_nil _ _)
  simp only [h, List.head_cons, Numeral.notExponentMark, bne, Bool.and_eq_false_iff,
    Bool.not_eq_false', beq_iff_eq] at hhead
  exact hhead

/-- A numeral is a sign, a mantissa and perhaps an exponent. -/
theorem exists_parts_of_isNumeral {cs : List Char} (h : Numeral.isNumeral cs = true) :
    ∃ sign mantissa rest, cs = sign ++ mantissa ++ rest ∧
      (sign = [] ∨ sign = ['-'] ∨ sign = ['+']) ∧ mantissa ≠ [] ∧
      (∀ c ∈ mantissa, isMantissaChar c = true) ∧
      (rest = [] ∨
        ∃ mark exponent, rest = mark :: exponent ∧ (mark = 'e' ∨ mark = 'E') ∧
          Numeral.isExponent exponent = true) := by
  simp only [Numeral.isNumeral, Bool.and_eq_true] at h
  obtain ⟨hmantissa, hexponent⟩ := h
  obtain ⟨hne, hbody⟩ := isMantissaChar_of_isMantissa hmantissa
  obtain ⟨sign, hcs, hsign⟩ := eq_append_dropSign cs
  refine ⟨sign, _, (Numeral.dropSign cs).dropWhile Numeral.notExponentMark, ?_, hsign, hne, hbody,
    ?_⟩
  · rw [List.append_assoc, List.takeWhile_append_dropWhile]
    exact hcs
  · split at hexponent
    next hrest => exact Or.inl hrest
    next mark exponent hrest =>
      exact Or.inr ⟨mark, exponent, hrest, eq_exponentMark hrest, hexponent⟩

theorem readsThrough_isNumeral {cs : List Char} (h : Numeral.isNumeral cs = true) :
    ReadsThrough .plain cs := by
  obtain ⟨sign, mantissa, rest, rfl, hsign, hne, hmantissa, hrest⟩ := exists_parts_of_isNumeral h
  have hbody : ∀ c ∈ mantissa, c ∉ marks :=
    fun c hc => not_mem_marks_of_isMantissaChar (hmantissa c hc)
  have hcalm (offset : Nat) : (modeAfter .plain offset (sign ++ mantissa)).isCalm = true :=
    isCalm_modeAfter_sign offset rfl hsign hne hbody
  have hfeed : '\n' ∉ sign ++ mantissa := by
    intro hmem
    rcases List.mem_append.mp hmem with hmem | hmem
    · rcases hsign with rfl | rfl | rfl <;> exact absurd hmem (by decide)
    · exact hbody _ hmem (by decide)
  rcases hrest with rfl | ⟨mark, exponent, rfl, hmark, hexponent⟩
  · rw [List.append_nil]
    exact .of_isOpen hfeed fun offset => Mode.isOpen_of_isCalm (hcalm offset)
  · replace hmark : mark ∉ marks := by rcases hmark with rfl | rfl <;> decide
    refine .of_isOpen ?_ fun offset => ?_
    · intro hmem
      rcases List.mem_append.mp hmem with hmem | hmem
      · exact hfeed hmem
      · rcases List.mem_cons.mp hmem with hmem | hmem
        · exact hmark (hmem ▸ by decide)
        · have hplain : Mode.plain.isCalm = true := rfl
          exact (isCalm_modeAfter_isExponent 0 hplain hexponent).2 hmem
    · have hstep := Mode.isCalm_step (offset + byteSize (sign ++ mantissa))
        (Mode.isOpen_of_isCalm (hcalm offset)) hmark
      rw [modeAfter_append]
      exact Mode.isOpen_of_isCalm (isCalm_modeAfter_isExponent _ hstep hexponent).1

/-- What a numeric column is given is a numeral. -/
theorem isNumeral_of_numeral {text numeral : String} {type : SqlType}
    (h : Sql.numeral text type = .ok numeral) : Numeral.isNumeral numeral.toList = true := by
  unfold Sql.numeral Numeral.normalize? at h
  split at h
  next found =>
    cases h
    dsimp only at found
    split at found
    next hnumeral =>
      cases found
      rwa [String.toList_ofList]
    next => cases found
  next => cases h

theorem readsThrough_numeral {text numeral : String} {type : SqlType}
    (h : Sql.numeral text type = .ok numeral) : ReadsThrough .plain numeral.toList :=
  readsThrough_isNumeral (isNumeral_of_numeral h)

/-! ## Literals and predicates -/

theorem readsThrough_forType {type : SqlType} {text : String}
    (h : ReadsThrough .plain text.toList) : ReadsThrough .plain (forType type text).toList := by
  unfold forType
  split
  · exact h
  · exact readsThrough_quoteString text

/-- The literal of any value is read through. -/
theorem readsThrough_literal {value : Value} {type : SqlType} {text : String}
    (h : literal value type = .ok text) : ReadsThrough .plain text.toList := by
  cases value with
  | null =>
      cases h
      exact .of_isOpen (by decide) fun offset => rfl
  | integer n =>
      cases h
      exact readsThrough_forType (readsThrough_integer n)
  | float x =>
      obtain ⟨numeral, hnumeral, rfl⟩ := Results.map_eq_ok.mp h
      exact readsThrough_forType (readsThrough_floatNumeral hnumeral)
  | decimal s =>
      obtain ⟨numeral, hnumeral, rfl⟩ := Results.map_eq_ok.mp h
      exact readsThrough_forType (readsThrough_numeral hnumeral)
  | boolean b =>
      cases h
      refine readsThrough_forType ?_
      cases b <;> exact .of_isOpen (by decide) fun offset => rfl
  | string s =>
      change (if type.isNumeric then numeral s type else _) = _ at h
      split at h
      · exact readsThrough_numeral h
      · split at h
        · cases h
          exact readsThrough_hexLiteral _
        · cases h
          exact readsThrough_quoteString s
  | binary bytes =>
      cases h
      exact readsThrough_hexLiteral bytes
  | date d =>
      rw [← Except.ok.inj h]
      exact readsThrough_quoteString d.text
  | time t =>
      rw [← Except.ok.inj h]
      exact readsThrough_quoteString t.text
  | timestamp t =>
      rw [← Except.ok.inj h]
      exact readsThrough_quoteString t.text
  | json d =>
      rw [← Except.ok.inj h]
      exact readsThrough_quoteString d.print

end Sql

namespace Fragment

theorem append_sql (a b : Fragment) : (a ++ b).sql.toList = a.sql.toList ++ b.sql.toList := by
  change (a.sql ++ b.sql).toList = _
  rw [String.toList_append]

end Fragment

namespace Dialect

open Sql

variable {s : Dialect}

/-- A value is read through, as a literal or as a placeholder. -/
theorem readsThrough_value {v : Value} {type : SqlType} {f : Fragment}
    (h : s.value v type = .ok f) : ReadsThrough .plain f.sql.toList := by
  unfold value at h
  split at h
  · obtain ⟨text, htext, rfl⟩ := Results.map_eq_ok.mp h
    exact readsThrough_literal htext
  · split at h
    · cases h
      exact .of_isOpen (by decide) fun offset => rfl
    · obtain ⟨p, -, rfl⟩ := Results.map_eq_ok.mp h
      have hmark : ReadsThrough .plain "?".toList := .of_isOpen (by decide) fun offset => rfl
      exact hmark

/-- An equals sign stands in plain text and is followed by plain text. -/
theorem modeAfter_equals {mode : Mode} (offset : Nat) (h : mode.isOpen = true) :
    modeAfter mode offset ['='] = .plain := by
  rw [modeAfter, step_of_isOpen offset h (by decide) (by decide) (by decide) (by decide)]
  rfl

theorem readsThrough_assignment {mode : Mode} {a : ColumnValue} {f : Fragment}
    (hquote : s.quote = .backtick) (h : s.assignment a = .ok f) (hopen : mode.isOpen = true) :
    ReadsThrough mode f.sql.toList := by
  obtain ⟨v, hv, h⟩ := Results.bind_eq_ok.mp h
  cases h
  rw [Fragment.append_sql, Fragment.append_sql, List.append_assoc]
  refine .append ?_ fun after hafter => ?_
  · rw [identifier, hquote]
    exact readsThrough_quoteIdentifier a.column hopen
  · have hvalue := readsThrough_value hv
    intro offset
    have hequals : (Fragment.raw "=").sql.toList = ['='] := rfl
    have ⟨hend, hfeeds⟩ := hvalue (offset + byteSize ['='])
    rw [hequals, modeAfter_append, namedFeeds_append, modeAfter_equals offset hafter, hfeeds]
    have hle := namedFeeds_le after offset ['=']
    have hnone : ['='].count '\n' = 0 := rfl
    rw [List.count_append]
    exact ⟨hend, by omega⟩

/-- A comparison is read through, with a value as with none. -/
theorem readsThrough_comparison {mode : Mode} {t : ColumnValue} {f : Fragment}
    (hquote : s.quote = .backtick) (h : s.comparison t = .ok f) (hopen : mode.isOpen = true) :
    ReadsThrough mode f.sql.toList := by
  unfold comparison at h
  split at h
  · cases h
    rw [Fragment.append_sql, identifier, hquote]
    refine .append (readsThrough_quoteIdentifier t.column hopen) fun after hafter => ?_
    refine .of_isOpen (by decide) fun offset => ?_
    have htext : (Fragment.raw " IS NULL").sql.toList = ' ' :: "IS NULL".toList := rfl
    rw [htext, modeAfter, Mode.step_blank offset hafter (by decide)]
    rfl
  · exact readsThrough_assignment hquote h hopen

/-- Between two comparisons the scanner is back in plain text. -/
theorem readsThrough_and {mode : Mode} (hopen : mode.isOpen = true) :
    ReadsThrough mode (Fragment.raw " AND ").sql.toList := by
  refine .of_isOpen (by decide) fun offset => ?_
  have htext : (Fragment.raw " AND ").sql.toList = ' ' :: "AND ".toList := rfl
  rw [htext, modeAfter, Mode.step_blank offset hopen (by decide)]
  rfl

/-- Comparisons are read through with the conjunctions between them. -/
theorem readsThrough_joined {mode : Mode} {fs : List Fragment} (hopen : mode.isOpen = true)
    (h : ∀ f ∈ fs, ∀ after : Mode, after.isOpen = true → ReadsThrough after f.sql.toList) :
    ReadsThrough mode (Fragment.joined " AND " fs).sql.toList := by
  induction fs generalizing mode with
  | nil => exact .nil hopen
  | cons f fs ih =>
      have hfirst := h f List.mem_cons_self mode hopen
      have hrest {after : Mode} (hafter : after.isOpen = true) :=
        ih hafter fun g hg => h g (List.mem_cons_of_mem f hg)
      cases fs with
      | nil => exact hfirst
      | cons g fs =>
          rw [Fragment.joined, Fragment.append_sql, Fragment.append_sql]
          · exact (hfirst.append fun after hafter => readsThrough_and hafter).append
              fun after hafter => hrest hafter
          · exact List.cons_ne_nil g fs

/-- A predicate in backticks is read through from plain text. -/
theorem readsThrough_predicate {terms : List ColumnValue} {f : Fragment}
    (hquote : s.quote = .backtick) (h : s.predicate terms = .ok f) :
    ReadsThrough .plain f.sql.toList := by
  obtain ⟨comparisons, hcomparisons, h⟩ := Results.bind_eq_ok.mp h
  cases h
  refine readsThrough_joined rfl fun g hg after hafter => ?_
  obtain ⟨t, -, ht⟩ := Results.exists_of_mem_mapM hcomparisons hg
  exact readsThrough_comparison hquote ht hafter

/-- Every line feed of a predicate stands in one of its tokens. -/
theorem feeds_tokens_predicate {terms : List ColumnValue} {f : Fragment}
    (hquote : s.quote = .backtick) (h : s.predicate terms = .ok f) :
    feeds (tokens f.sql) = f.sql.toList.count '\n' := by
  rw [tokens, feeds_tokensOf]
  exact (readsThrough_predicate hquote h 0).2

end Dialect

end ScrollCursor
