import ScrollCursor.Proofs.Sql.Rendering

/-! # Reading statements piece by piece

A piece of a statement is summed up by what its scan leaves: the quoted names among its tokens,
the number of its placeholders, and that it ends outside of everything. Two pieces that do not run
into each other leave what both leave. A name in backticks leaves itself, a literal leaves
nothing, whatever characters either is made of.
-/

namespace ScrollCursor

namespace Sql

/-- The texts of the quoted names among some tokens. -/
def quotedNames (ts : List Token) : List String :=
  (ts.filter Token.quoted).map Token.text

theorem quotedNames_append (ts us : List Token) :
    quotedNames (ts ++ us) = quotedNames ts ++ quotedNames us := by
  rw [quotedNames, List.filter_append, List.map_append]
  rfl

/-- Which names are quoted depends on the spelling only. -/
theorem quotedNames_eq_of_spelling {ts us : List Token}
    (h : ts.map Token.spelling = us.map Token.spelling) : quotedNames ts = quotedNames us := by
  have hnames (ts : List Token) :
      quotedNames ts = ((ts.map Token.spelling).filter Prod.snd).map Prod.fst := by
    rw [List.filter_map, List.map_map]
    rfl
  rw [hnames, h, ← hnames]

/-- The characters, read as plain text, end outside of literals, quoted names and comments. Their
quoted names are the given ones, they have so many placeholders, and none of their words is
`CURRENT`. -/
structure Reads (cs : List Char) (names : List String) (marks : Nat) : Prop where
  isOpen : (modeAfter .plain 0 cs).isOpen = true
  names_eq : quotedNames (tokensOf 0 cs) = names
  marks_eq : openMarks .plain 0 cs = marks
  isKeyword : ∀ t ∈ tokensOf 0 cs, t.isKeyword "CURRENT" = false

/-! ## Where pieces meet -/

/-- Outside of everything the character begins a piece of its own: it continues no word, no quoted
name and no comment mark. -/
def isBreak (c : Char) : Bool :=
  !isWordChar c && c != '\x60' && c != '-' && c != '*'

/-- Pieces that do not run into each other: the first ends in plain text, or the second begins
with a break. -/
def Apart (cs ds : List Char) : Prop :=
  modeAfter .plain 0 cs = .plain ∨ ∀ c ∈ ds.head?, isBreak c = true

/-- A character that cannot go on a word ends what is being read. -/
theorem step_break {mode : Mode} {c : Char} (offset : Nat) (hopen : mode.isOpen = true)
    (hbreak : isBreak c = true) :
    mode.step offset c =
      ((Mode.ofPlain offset c).1, mode.finish ++ (Mode.ofPlain offset c).2) := by
  simp only [isBreak, Bool.and_eq_true, Bool.not_eq_true', bne_iff_ne] at hbreak
  obtain ⟨⟨⟨hword, hname⟩, hhyphen⟩, hstar⟩ := hbreak
  exact step_of_isOpen offset hopen hword hname hhyphen hstar

/-- What follows a piece that ends in the mode. -/
structure ReadsAlone (mode : Mode) (offset : Nat) (ds : List Char) : Prop where
  tokens : tokensFrom mode offset ds = mode.finish ++ tokensOf offset ds
  isOpen : (modeAfter mode offset ds).isOpen = (modeAfter .plain offset ds).isOpen
  marks : openMarks mode offset ds = openMarks .plain offset ds

/-- A piece that is set apart is read as if it stood alone. -/
theorem readsAlone {mode : Mode} {ds : List Char} (offset : Nat) (hopen : mode.isOpen = true)
    (hapart : mode = .plain ∨ ∀ c ∈ ds.head?, isBreak c = true) :
    ReadsAlone mode offset ds := by
  rcases hapart with rfl | hbreak
  · exact ⟨rfl, rfl, rfl⟩
  · cases ds with
    | nil => exact ⟨(List.append_nil _).symm, hopen, rfl⟩
    | cons d ds =>
        have hstep := step_break offset hopen (hbreak d rfl)
        refine ⟨?_, ?_, ?_⟩
        · change _ = mode.finish ++ tokensFrom .plain offset (d :: ds)
          rw [tokensFrom_cons, tokensFrom_cons, hstep, List.append_assoc]
          rfl
        · rw [modeAfter, hstep]
          rfl
        · rw [openMarks, hstep, hopen]
          rfl

/-- Pieces that are set apart from each other are read one after the other. -/
theorem Reads.append {cs ds : List Char} {names names' : List String} {marks marks' : Nat}
    (hcs : Reads cs names marks) (hds : Reads ds names' marks') (hapart : Apart cs ds) :
    Reads (cs ++ ds) (names ++ names') (marks + marks') := by
  have halone := readsAlone (0 + byteSize cs) hcs.isOpen hapart
  have htokens : tokensOf 0 (cs ++ ds) = tokensOf 0 cs ++ tokensOf (0 + byteSize cs) ds := by
    change tokensFrom .plain 0 (cs ++ ds) = _
    rw [tokensFrom_append, halone.tokens, ← List.append_assoc]
    rfl
  have hspelling := spelling_tokensOf (0 + byteSize cs) ds
  refine ⟨?_, ?_, ?_, ?_⟩
  · rw [modeAfter_append, halone.isOpen, modeAfter_plain_shift, Mode.isOpen_shift]
    exact hds.isOpen
  · rw [htokens, quotedNames_append, quotedNames_eq_of_spelling hspelling, hcs.names_eq,
      hds.names_eq]
  · rw [openMarks_append, halone.marks, openMarks_plain (0 + byteSize cs), hcs.marks_eq,
      hds.marks_eq]
  · intro t ht
    rw [htokens] at ht
    rcases List.mem_append.mp ht with h | h
    · exact hcs.isKeyword t h
    · have hmem := List.mem_map_of_mem (f := Token.spelling) h
      rw [hspelling] at hmem
      obtain ⟨u, hu, heq⟩ := List.mem_map.mp hmem
      have ⟨htext, hquoted⟩ := Prod.mk.inj heq
      rw [Token.isKeyword, ← htext, ← hquoted]
      exact hds.isKeyword u hu

/-! ## Characters inside of a literal or a name -/

/-- The characters keep the scanner in the mode, and nothing of them is a token or a
placeholder. -/
def StandIn (mode : Mode) (cs : List Char) : Prop :=
  ∀ offset, modeAfter mode offset cs = mode ∧ completed mode offset cs = [] ∧
    openMarks mode offset cs = 0

namespace StandIn

variable {mode : Mode} {cs ds : List Char}

theorem nil : StandIn mode [] :=
  fun _ => ⟨rfl, rfl, rfl⟩

/-- Texts that stand in a literal do so one after the other. -/
theorem append (hcs : StandIn mode cs) (hds : StandIn mode ds) : StandIn mode (cs ++ ds) := by
  intro offset
  obtain ⟨hmode, htokens, hmarks⟩ := hcs offset
  rw [modeAfter_append, completed_append, openMarks_append, hmode, htokens, hmarks, Nat.zero_add]
  exact hds _

/-- A character that neither ends a literal nor escapes the next one. -/
theorem literal {quote c : Char} (hquote : c ≠ quote) (hescape : c ≠ '\\') :
    StandIn (.literal quote) [c] := by
  intro offset
  have hstep : (Mode.literal quote).step offset c = (.literal quote, []) := by
    rw [Mode.step, if_neg hquote, if_neg hescape]
  rw [modeAfter, completed, openMarks, hstep]
  exact ⟨rfl, rfl, rfl⟩

/-- An escaped text stands in a literal. -/
theorem escape (cs : List Char) : StandIn (.literal '\'') (Text.escape cs) := by
  induction cs with
  | nil => exact .nil
  | cons c cs ih =>
      rw [Text.escape, List.flatMap_cons, ← Text.escape]
      refine .append ?_ ih
      obtain ⟨letter, hchar, -⟩ | ⟨hchar, hquote, -, hescape, -⟩ := escapeChar_cases c
      · rw [hchar]
        exact fun offset => ⟨rfl, rfl, rfl⟩
      · rw [hchar]
        exact .literal hquote hescape

/-- A text without quotes and backslashes stands in a literal. -/
theorem of_forall {quote : Char} (h : ∀ c ∈ cs, c ≠ quote ∧ c ≠ '\\') :
    StandIn (.literal quote) cs := by
  induction cs with
  | nil => exact .nil
  | cons c cs ih =>
      have ⟨hquote, hescape⟩ := h c List.mem_cons_self
      exact (literal hquote hescape).append (ih fun d hd => h d (List.mem_cons_of_mem c hd))

end StandIn

/-- Inside of a quoted name the characters are taken into the name, doubled backticks as one, and
nothing else is read. -/
theorem scan_doubled (start : Nat) (chars : List Char) (offset : Nat) (cs : List Char) :
    completed (.name start chars) offset (Text.doubled '\x60' cs) = [] ∧
      openMarks (.name start chars) offset (Text.doubled '\x60' cs) = 0 := by
  induction cs generalizing chars offset with
  | nil => exact ⟨rfl, rfl⟩
  | cons c cs ih =>
      rw [Text.doubled, List.flatMap_cons, ← Text.doubled]
      by_cases hc : c = '\x60'
      · subst hc
        obtain ⟨htokens, hmarks⟩ := ih (chars ++ ['\x60']) (offset + 1 + 1)
        refine ⟨htokens, ?_⟩
        change 0 + (0 + openMarks (.name start (chars ++ ['\x60'])) (offset + 1 + 1)
          (Text.doubled '\x60' cs)) = 0
        rw [hmarks]
      · obtain ⟨htokens, hmarks⟩ := ih (chars ++ [c]) (offset + c.utf8Size)
        have hstep : Mode.step offset (.name start chars) c = (.name start (chars ++ [c]), []) := by
          rw [Mode.step, if_neg hc]
        rw [if_neg hc, List.singleton_append, completed, openMarks, hstep]
        refine ⟨htokens, ?_⟩
        rw [hmarks]
        rfl

/-- A name in backticks is one quoted token with the name as its text. -/
theorem reads_quoteIdentifier (name : String) :
    Reads (quoteIdentifier .backtick name).toList [name] 0 := by
  have htext : (quoteIdentifier .backtick name).toList =
      '\x60' :: (Text.doubled '\x60' name.toList ++ ['\x60']) := by
    rw [quoteIdentifier, Text.quoteName, String.toList_ofList]
    rfl
  have hmode := (modeAfter_doubled 0 [] 1 name.toList).1
  obtain ⟨hcompleted, hmarks⟩ := scan_doubled 0 [] 1 name.toList
  rw [List.nil_append] at hmode
  have hlast : modeAfter .plain 0 (quoteIdentifier .backtick name).toList =
      .nameQuote 0 name.toList := by
    rw [htext]
    change modeAfter (.name 0 []) 1 _ = _
    rw [modeAfter_append, hmode]
    rfl
  have htokens : tokensOf 0 (quoteIdentifier .backtick name).toList =
      [Mode.nameToken 0 name.toList] := by
    rw [tokensOf, hlast, htext]
    change completed (.name 0 []) 1 _ ++ _ = _
    rw [completed_append, hcompleted, hmode]
    rfl
  refine ⟨?_, ?_, ?_, ?_⟩
  · rw [hlast]
    rfl
  · rw [htokens]
    exact congrArg (fun text => [text]) String.ofList_toList
  · rw [htext]
    change 0 + openMarks (.name 0 []) 1 _ = 0
    rw [openMarks_append, hmarks, hmode]
    rfl
  · intro t ht
    rw [htokens] at ht
    rw [List.mem_singleton.mp ht]
    rfl

/-! ## String and hexadecimal literals -/

/-- A string literal holds no quoted name and no placeholder. -/
theorem reads_quoteString (s : String) : Reads (Text.quoteString s).toList [] 0 := by
  have htext : (Text.quoteString s).toList = '\'' :: (Text.escape s.toList ++ ['\'']) := by
    rw [Text.quoteString, String.toList_ofList, List.cons_append]
  obtain ⟨hmode, hcompleted, hmarks⟩ := StandIn.escape s.toList 1
  have hlast : modeAfter .plain 0 (Text.quoteString s).toList = .plain := by
    rw [htext]
    change modeAfter (.literal '\'') 1 _ = _
    rw [modeAfter_append, hmode]
    rfl
  have htokens : tokensOf 0 (Text.quoteString s).toList = [] := by
    rw [tokensOf, hlast, htext]
    change completed (.literal '\'') 1 _ ++ _ = _
    rw [completed_append, hcompleted, hmode]
    rfl
  refine ⟨?_, ?_, ?_, ?_⟩
  · rw [hlast]
    rfl
  · rw [htokens]
    rfl
  · rw [htext]
    change 0 + openMarks (.literal '\'') 1 _ = 0
    rw [openMarks_append, hmarks, hmode]
    rfl
  · intro t ht
    rw [htokens] at ht
    cases ht

theorem reads_hexLiteral (bytes : Text.Bytes) : Reads (hexLiteral bytes).toList [] 0 := by
  have htext : (hexLiteral bytes).toList =
      'X' :: '\'' :: ((Text.Hex.upper bytes).toList ++ ['\'']) := by
    rw [hexLiteral, String.toList_append, String.toList_append, List.append_assoc]
    rfl
  have hbody : StandIn (.literal '\'') (Text.Hex.upper bytes).toList := by
    refine .of_forall fun c hc => ⟨?_, ?_⟩
    · rintro rfl
      exact not_mem_hexUpper (by decide) bytes hc
    · rintro rfl
      exact not_mem_hexUpper (by decide) bytes hc
  obtain ⟨hmode, hcompleted, hmarks⟩ := hbody 2
  have hlast : modeAfter .plain 0 (hexLiteral bytes).toList = .plain := by
    rw [htext]
    change modeAfter (.literal '\'') 2 _ = _
    rw [modeAfter_append, hmode]
    rfl
  have htokens : tokensOf 0 (hexLiteral bytes).toList = [Mode.plainToken 0 ['X']] := by
    rw [tokensOf, hlast, htext]
    change (Mode.plainToken 0 ['X'] :: completed (.literal '\'') 2 _) ++ _ = _
    rw [completed_append, hcompleted, hmode]
    rfl
  refine ⟨?_, ?_, ?_, ?_⟩
  · rw [hlast]
    rfl
  · rw [htokens]
    rfl
  · rw [htext]
    change 0 + (0 + openMarks (.literal '\'') 2 _) = 0
    rw [openMarks_append, hmarks, hmode]
    rfl
  · intro t ht
    rw [htokens] at ht
    rw [List.mem_singleton.mp ht]
    decide +kernel

/-! ## Numerals -/

/-- The characters of numerals. -/
def isNumeralChar (c : Char) : Bool :=
  isMantissaChar c || c == '+' || c == '-' || c == 'e' || c == 'E'

theorem isNumeralChar_of_isMantissaChar {c : Char} (h : isMantissaChar c = true) :
    isNumeralChar c = true := by
  simp only [isNumeralChar, h, Bool.true_or]

namespace Token

/-- An unquoted token that is made of characters of numerals. -/
def IsNumeric (t : Token) : Prop :=
  t.quoted = false ∧ ∀ c ∈ t.text.toList, isNumeralChar c = true

theorem isNumeric_plainToken (start : Nat) {chars : List Char}
    (h : ∀ c ∈ chars, isNumeralChar c = true) : (Mode.plainToken start chars).IsNumeric := by
  refine ⟨rfl, ?_⟩
  rwa [Mode.plainToken, String.toList_ofList]

/-- No character of a numeral begins the word `CURRENT`. -/
theorem toUpper_ne_of_isNumeralChar {c : Char} (h : isNumeralChar c = true) :
    c.toUpper ≠ 'C' := by
  simp only [isNumeralChar, isMantissaChar, Bool.or_eq_true, beq_iff_eq] at h
  rcases h with ((((hdigit | rfl) | rfl) | rfl) | rfl) | rfl
  · have hle : c.val ≤ 57 := by
      simp only [Char.isDigit, Bool.and_eq_true, decide_eq_true_eq] at hdigit
      exact hdigit.2
    have hupper : c.toUpper = c := by
      unfold Char.toUpper
      apply dif_neg
      rintro ⟨hlower, -⟩
      exact absurd (UInt32.le_trans hlower hle) (by decide)
    rw [hupper]
    rintro rfl
    exact absurd hdigit (by decide)
  all_goals decide

/-- Such a token is no keyword of letters. -/
theorem IsNumeric.isKeyword_current {t : Token} (h : t.IsNumeric) :
    t.isKeyword "CURRENT" = false := by
  by_contra hkeyword
  rw [Bool.not_eq_false, isKeyword, Bool.and_eq_true] at hkeyword
  have hupper := String.ofList_injective (Text.sameName_iff.mp hkeyword.2)
  have hcurrent : "CURRENT".toList.map Char.toUpper = 'C' :: "URRENT".toList := rfl
  rw [hcurrent] at hupper
  obtain ⟨c, cs, htext, hc, -⟩ := List.map_eq_cons_iff.mp hupper
  refine toUpper_ne_of_isNumeralChar (h.2 c ?_) hc
  rw [htext]
  exact List.mem_cons_self

end Token

namespace Mode

/-- A character of a numeral begins a number or a mark. -/
theorem isNumeric_ofPlain (offset : Nat) {c : Char} (hc : isNumeralChar c = true) :
    ∀ t ∈ (ofPlain offset c).2 ++ (ofPlain offset c).1.finish, t.IsNumeric := by
  have hsingle : ∀ d ∈ [c], isNumeralChar d = true :=
    fun d hd => (List.mem_singleton.mp hd).symm ▸ hc
  have hname : c ≠ '\x60' := by
    rintro rfl
    exact absurd hc (by decide)
  have hslash : c ≠ '/' := by
    rintro rfl
    exact absurd hc (by decide)
  intro t ht
  rw [ofPlain, if_neg hname, if_neg hslash] at ht
  repeat' split at ht
  all_goals
    simp only [finish, List.append_nil, List.nil_append, List.not_mem_nil,
      List.mem_singleton] at ht
  all_goals rw [ht]
  · exact Token.isNumeric_plainToken offset (List.all_eq_true.mp (by decide))
  · exact Token.isNumeric_plainToken offset hsingle
  · exact Token.isNumeric_plainToken offset hsingle

theorem isNumeric_step (offset : Nat) {mode : Mode} {c : Char}
    (hmode : ∀ t ∈ mode.finish, t.IsNumeric) (hc : isNumeralChar c = true) :
    ∀ t ∈ (mode.step offset c).2 ++ (mode.step offset c).1.finish, t.IsNumeric := by
  have hflush : ∀ t ∈ (mode.finish ++ (ofPlain offset c).2) ++ (ofPlain offset c).1.finish,
      t.IsNumeric := by
    intro t ht
    rw [List.append_assoc] at ht
    rcases List.mem_append.mp ht with h | h
    · exact hmode t h
    · exact isNumeric_ofPlain offset hc t h
  have hnone : ∀ t ∈ ([] : List Token), t.IsNumeric := fun t ht => by cases ht
  cases mode with
  | plain => exact hflush
  | word start chars =>
      rw [step]
      split
      · intro t ht
        rw [List.mem_singleton.mp ht]
        have hchars := (hmode _ (List.mem_singleton.mpr rfl)).2
        rw [plainToken, String.toList_ofList] at hchars
        refine Token.isNumeric_plainToken start fun d hd => ?_
        rcases List.mem_append.mp hd with h | h
        · exact hchars d h
        · rwa [List.mem_singleton.mp h]
      · exact hflush
  | name | nameQuote =>
      have hquoted := (hmode _ (List.mem_singleton.mpr rfl)).1
      cases hquoted
  | hyphen | slash =>
      rw [step]
      split
      · exact hnone
      · exact hflush
  | literal | blockStar =>
      rw [step]
      split
      · exact hnone
      · split <;> exact hnone
  | literalEscape => exact hnone
  | lineComment | blockComment =>
      rw [step]
      split <;> exact hnone

end Mode

/-- What is read from a numeral are numbers and marks. -/
theorem isNumeric_tokensFrom {mode : Mode} (offset : Nat) {cs : List Char}
    (hmode : ∀ t ∈ mode.finish, t.IsNumeric) (h : ∀ c ∈ cs, isNumeralChar c = true) :
    ∀ t ∈ tokensFrom mode offset cs, t.IsNumeric := by
  induction cs generalizing mode offset with
  | nil => exact hmode
  | cons c cs ih =>
      have hstep := Mode.isNumeric_step offset hmode (h c List.mem_cons_self)
      intro t ht
      rw [tokensFrom_cons] at ht
      rcases List.mem_append.mp ht with hmem | hmem
      · exact hstep t (List.mem_append_left _ hmem)
      · exact ih _ (fun u hu => hstep u (List.mem_append_right _ hu))
          (fun d hd => h d (List.mem_cons_of_mem c hd)) t hmem

/-- Without a question mark there is no placeholder. -/
theorem openMarks_eq_zero {mode : Mode} (offset : Nat) {cs : List Char} (h : '?' ∉ cs) :
    openMarks mode offset cs = 0 := by
  induction cs generalizing mode offset with
  | nil => rfl
  | cons c cs ih =>
      have hmark : (c == '?') = false := beq_false_of_ne (Ne.symm (List.ne_of_not_mem_cons h))
      rw [openMarks, hmark, Bool.and_false, if_neg Bool.false_ne_true,
        ih _ (List.not_mem_of_not_mem_cons h)]

/-- A numeral leaves no quoted name and no placeholder. -/
theorem reads_of_isNumeralChar {cs : List Char} (hthrough : ReadsThrough .plain cs)
    (h : ∀ c ∈ cs, isNumeralChar c = true) : Reads cs [] 0 := by
  have hnone : ∀ t ∈ Mode.plain.finish, t.IsNumeric := fun t ht => by cases ht
  have htokens : ∀ t ∈ tokensOf 0 cs, t.IsNumeric := isNumeric_tokensFrom 0 hnone h
  refine ⟨(hthrough 0).1, ?_, ?_, fun t ht => (htokens t ht).isKeyword_current⟩
  · rw [quotedNames, List.filter_eq_nil_iff.mpr, List.map_nil]
    intro t ht
    rw [(htokens t ht).1]
    exact Bool.false_ne_true
  · exact openMarks_eq_zero 0 fun hmem => absurd (h _ hmem) (by decide)

theorem isNumeralChar_of_signed {cs : List Char} (negative : Bool)
    (h : ∀ c ∈ cs, isMantissaChar c = true) :
    ∀ c ∈ (if negative then '-' :: cs else cs), isNumeralChar c = true := by
  cases negative with
  | false => exact fun c hc => isNumeralChar_of_isMantissaChar (h c hc)
  | true =>
      intro c hc
      rcases List.mem_cons.mp hc with rfl | hc
      · decide
      · exact isNumeralChar_of_isMantissaChar (h c hc)

/-- An integer holds no quoted name and no placeholder. -/
theorem reads_integer (n : Int) : Reads (toString n).toList [] 0 := by
  refine reads_of_isNumeralChar (readsThrough_integer n) ?_
  obtain ⟨negative, digits, hdigits, htext⟩ := exists_digits_of_integer n
  rw [htext]
  exact isNumeralChar_of_signed negative fun c hc => isMantissaChar_of_isDigit (hdigits c hc)

theorem reads_floatNumeral {x : Binary64} {text : String} (h : floatNumeral x = .ok text) :
    Reads text.toList [] 0 := by
  refine reads_of_isNumeralChar (readsThrough_floatNumeral h) ?_
  obtain ⟨negative, mantissa, hmantissa, htext⟩ := exists_mantissa_of_floatNumeral h
  rw [htext]
  exact isNumeralChar_of_signed negative hmantissa

theorem isNumeralChar_of_mem_sign {sign : List Char}
    (hsign : sign = [] ∨ sign = ['-'] ∨ sign = ['+']) : ∀ c ∈ sign, isNumeralChar c = true := by
  rcases hsign with rfl | rfl | rfl <;> exact List.all_eq_true.mp (by decide)

theorem isNumeralChar_of_isExponent {cs : List Char} (h : Numeral.isExponent cs = true) :
    ∀ c ∈ cs, isNumeralChar c = true := by
  simp only [Numeral.isExponent, Bool.and_eq_true, List.all_eq_true] at h
  obtain ⟨sign, hcs, hsign⟩ := eq_append_dropSign cs
  intro c hc
  rw [hcs] at hc
  rcases List.mem_append.mp hc with hmem | hmem
  · exact isNumeralChar_of_mem_sign hsign c hmem
  · exact isNumeralChar_of_isMantissaChar (isMantissaChar_of_isDigit (h.2 c hmem))

/-- A numeral is made of characters of numerals. -/
theorem isNumeralChar_of_isNumeral {cs : List Char} (h : Numeral.isNumeral cs = true) :
    ∀ c ∈ cs, isNumeralChar c = true := by
  obtain ⟨sign, mantissa, rest, hcs, hsign, -, hmantissa, hrest⟩ := exists_parts_of_isNumeral h
  intro c hc
  rw [hcs, List.append_assoc] at hc
  rcases List.mem_append.mp hc with hmem | hmem
  · exact isNumeralChar_of_mem_sign hsign c hmem
  · rcases List.mem_append.mp hmem with hmem | hmem
    · exact isNumeralChar_of_isMantissaChar (hmantissa c hmem)
    · rcases hrest with rfl | ⟨mark, exponent, rfl, hmark, hexponent⟩
      · cases hmem
      · rcases List.mem_cons.mp hmem with rfl | hmem
        · rcases hmark with rfl | rfl <;> decide
        · exact isNumeralChar_of_isExponent hexponent c hmem

/-- What a numeric column is given holds no quoted name and no placeholder. -/
theorem reads_numeral {text numeral : String} {type : SqlType}
    (h : Sql.numeral text type = .ok numeral) : Reads numeral.toList [] 0 :=
  have hnumeral := isNumeral_of_numeral h
  reads_of_isNumeralChar (readsThrough_isNumeral hnumeral) (isNumeralChar_of_isNumeral hnumeral)

/-! ## Literals -/

theorem reads_forType {type : SqlType} {text : String} (h : Reads text.toList [] 0) :
    Reads (forType type text).toList [] 0 := by
  unfold forType
  split
  · exact h
  · exact reads_quoteString text

/-- A literal leaves no quoted name and no placeholder, whatever its value. -/
theorem reads_literal {value : Value} {type : SqlType} {text : String}
    (h : literal value type = .ok text) : Reads text.toList [] 0 := by
  cases value with
  | null =>
      cases h
      exact ⟨rfl, rfl, rfl, by decide +kernel⟩
  | integer n =>
      cases h
      exact reads_forType (reads_integer n)
  | float x =>
      obtain ⟨numeral, hnumeral, rfl⟩ := Results.map_eq_ok.mp h
      exact reads_forType (reads_floatNumeral hnumeral)
  | decimal s =>
      obtain ⟨numeral, hnumeral, rfl⟩ := Results.map_eq_ok.mp h
      exact reads_forType (reads_numeral hnumeral)
  | boolean b =>
      cases h
      refine reads_forType ?_
      cases b <;> exact ⟨rfl, rfl, rfl, by decide +kernel⟩
  | string s =>
      change (if type.isNumeric then numeral s type else _) = _ at h
      split at h
      · exact reads_numeral h
      · split at h
        · cases h
          exact reads_hexLiteral _
        · cases h
          exact reads_quoteString s
  | binary bytes =>
      cases h
      exact reads_hexLiteral bytes
  | date d =>
      rw [← Except.ok.inj h]
      exact reads_quoteString d.text
  | time t =>
      rw [← Except.ok.inj h]
      exact reads_quoteString t.text
  | timestamp t =>
      rw [← Except.ok.inj h]
      exact reads_quoteString t.text
  | json d =>
      rw [← Except.ok.inj h]
      exact reads_quoteString d.print

end Sql

end ScrollCursor
