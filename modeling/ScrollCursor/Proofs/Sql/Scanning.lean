import ScrollCursor.Sql.Positioned

/-! # Scanning in pieces

The scanner of statements reads a text in any pieces: where a piece begins in plain text its
tokens are those of the piece alone, moved by its offset. A blank or a symbol outside of
literals, quoted names and comments is such a place. An unquoted word is always found at one,
so the text before it has the same tokens alone as in the whole.
-/

namespace ScrollCursor

namespace Sql

namespace Token

/-- The token found further on in a text. -/
def shift (d : Nat) (t : Token) : Token :=
  { t with start := t.start + d }

/-- What a token says, wherever it stands. -/
def spelling (t : Token) : String × Bool :=
  (t.text, t.quoted)

/-- An unquoted token that begins like a word. -/
def isPlainWord (t : Token) : Bool :=
  !t.quoted && t.isWord

end Token

/-! ## Moving a text -/

namespace Mode

/-- The mode with the start of its unfinished token moved. -/
def shift (d : Nat) : Mode → Mode
  | .word start chars => .word (start + d) chars
  | .name start chars => .name (start + d) chars
  | .nameQuote start chars => .nameQuote (start + d) chars
  | .hyphen start => .hyphen (start + d)
  | .slash start => .slash (start + d)
  | mode => mode

theorem isOpen_shift (d : Nat) (mode : Mode) : (mode.shift d).isOpen = mode.isOpen := by
  cases mode <;> rfl

theorem finish_shift (d : Nat) (mode : Mode) :
    (mode.shift d).finish = mode.finish.map (Token.shift d) := by
  cases mode <;> rfl

theorem ofPlain_shift (d offset : Nat) (c : Char) :
    ofPlain (offset + d) c =
      ((ofPlain offset c).1.shift d, (ofPlain offset c).2.map (Token.shift d)) := by
  unfold ofPlain
  repeat' split
  all_goals rfl

/-- How a character is read does not depend on where the text begins. -/
theorem step_shift (d offset : Nat) (mode : Mode) (c : Char) :
    (mode.shift d).step (offset + d) c =
      ((mode.step offset c).1.shift d, (mode.step offset c).2.map (Token.shift d)) := by
  cases mode with
  | plain => exact ofPlain_shift d offset c
  | word start chars =>
      change step (offset + d) (.word (start + d) chars) c = _
      simp only [step, ofPlain_shift]
      split
      · rfl
      · rw [List.map_append]
        rfl
  | name start chars =>
      change step (offset + d) (.name (start + d) chars) c = _
      simp only [step]
      split <;> rfl
  | nameQuote start chars =>
      change step (offset + d) (.nameQuote (start + d) chars) c = _
      simp only [step, ofPlain_shift]
      split
      · rfl
      · rw [List.map_append]
        rfl
  | hyphen start =>
      change step (offset + d) (.hyphen (start + d)) c = _
      simp only [step, ofPlain_shift]
      split
      · rfl
      · rw [List.map_append]
        rfl
  | slash start =>
      change step (offset + d) (.slash (start + d)) c = _
      simp only [step, ofPlain_shift]
      split
      · rfl
      · rw [List.map_append]
        rfl
  | literal quote =>
      change step (offset + d) (.literal quote) c = _
      simp only [step]
      split
      · rfl
      · split <;> rfl
  | literalEscape quote => rfl
  | lineComment =>
      change step (offset + d) .lineComment c = _
      simp only [step]
      split <;> rfl
  | blockComment =>
      change step (offset + d) .blockComment c = _
      simp only [step]
      split <;> rfl
  | blockStar =>
      change step (offset + d) .blockStar c = _
      simp only [step]
      split
      · rfl
      · split <;> rfl

end Mode

theorem modeAfter_shift (d offset : Nat) (mode : Mode) (cs : List Char) :
    modeAfter (mode.shift d) (offset + d) cs = (modeAfter mode offset cs).shift d := by
  induction cs generalizing mode offset with
  | nil => rfl
  | cons c cs ih =>
      rw [modeAfter, modeAfter, Mode.step_shift, Nat.add_right_comm offset d, ih]

theorem completed_shift (d offset : Nat) (mode : Mode) (cs : List Char) :
    completed (mode.shift d) (offset + d) cs =
      (completed mode offset cs).map (Token.shift d) := by
  induction cs generalizing mode offset with
  | nil => rfl
  | cons c cs ih =>
      rw [completed, completed, Mode.step_shift, Nat.add_right_comm offset d, ih, List.map_append]

theorem openMarks_shift (d offset : Nat) (mode : Mode) (cs : List Char) :
    openMarks (mode.shift d) (offset + d) cs = openMarks mode offset cs := by
  induction cs generalizing mode offset with
  | nil => rfl
  | cons c cs ih =>
      rw [openMarks, openMarks, Mode.step_shift, Nat.add_right_comm offset d, ih,
        Mode.isOpen_shift]

theorem modeAfter_plain_shift (d offset : Nat) (cs : List Char) :
    modeAfter .plain (offset + d) cs = (modeAfter .plain offset cs).shift d :=
  modeAfter_shift d offset .plain cs

/-- Tokens move with the text. -/
theorem tokensOf_shift (d offset : Nat) (cs : List Char) :
    tokensOf (offset + d) cs = (tokensOf offset cs).map (Token.shift d) := by
  have hcompleted : completed .plain (offset + d) cs = _ := completed_shift d offset .plain cs
  rw [tokensOf, tokensOf, hcompleted, modeAfter_plain_shift, Mode.finish_shift, List.map_append]

/-- What the tokens of a text say does not depend on where the text stands. -/
theorem spelling_tokensOf (offset : Nat) (cs : List Char) :
    (tokensOf offset cs).map Token.spelling = (tokensOf 0 cs).map Token.spelling := by
  have hshift := tokensOf_shift offset 0 cs
  rw [Nat.zero_add] at hshift
  rw [hshift, List.map_map]
  rfl

/-- The placeholders do not depend on where the text begins. -/
theorem openMarks_plain (offset : Nat) (cs : List Char) :
    openMarks .plain offset cs = openMarks .plain 0 cs := by
  have hshift : openMarks .plain (0 + offset) cs = _ := openMarks_shift offset 0 .plain cs
  rwa [Nat.zero_add] at hshift

/-! ## Reading on from a mode -/

/-- The tokens of characters that are read from a mode to the end of the text. -/
def tokensFrom (mode : Mode) (offset : Nat) (cs : List Char) : List Token :=
  completed mode offset cs ++ (modeAfter mode offset cs).finish

theorem tokensFrom_cons (mode : Mode) (offset : Nat) (c : Char) (cs : List Char) :
    tokensFrom mode offset (c :: cs) =
      (mode.step offset c).2 ++ tokensFrom (mode.step offset c).1 (offset + c.utf8Size) cs :=
  List.append_assoc _ _ _

/-- A text is read through its first part and on from there. -/
theorem tokensFrom_append (mode : Mode) (offset : Nat) (cs ds : List Char) :
    tokensFrom mode offset (cs ++ ds) =
      completed mode offset cs ++
        tokensFrom (modeAfter mode offset cs) (offset + byteSize cs) ds := by
  rw [tokensFrom, completed_append, modeAfter_append, List.append_assoc]
  rfl

/-! ## Blanks -/

/-- The code points of the blanks. -/
def blankCodes : List Nat :=
  [9, 10, 11, 12, 13, 0x20, 0x85, 0xA0, 0x1680, 0x2000, 0x2001, 0x2002, 0x2003, 0x2004, 0x2005,
    0x2006, 0x2007, 0x2008, 0x2009, 0x200A, 0x2028, 0x2029, 0x202F, 0x205F, 0x3000]

theorem toNat_mem_blankCodes {c : Char} (h : Text.isBlank c = true) : c.toNat ∈ blankCodes := by
  simp only [Text.isBlank, Bool.or_eq_true, Bool.and_eq_true, decide_eq_true_eq,
    beq_iff_eq] at h
  simp only [blankCodes, List.mem_cons, List.not_mem_nil, or_false]
  omega

theorem isWordChar_blank_code :
    ∀ n ∈ blankCodes, isWordChar (Char.ofNat n) = false := by
  decide +kernel

theorem isWordChar_of_isBlank {c : Char} (h : Text.isBlank c = true) : isWordChar c = false := by
  have hcode := isWordChar_blank_code c.toNat (toNat_mem_blankCodes h)
  rwa [Char.ofNat_toNat] at hcode

/-- A blank is none of the characters that are not blanks. -/
theorem ne_of_isBlank {c d : Char} (hc : Text.isBlank c = true)
    (hd : Text.isBlank d = false := by decide) : c ≠ d := by
  intro h
  rw [h, hd] at hc
  cases hc

namespace Mode

theorem ofPlain_blank (offset : Nat) {c : Char} (h : Text.isBlank c = true) :
    ofPlain offset c = (.plain, []) := by
  have hquote : ¬ (c = '\'' ∨ c = '"') :=
    not_or.mpr ⟨ne_of_isBlank h, ne_of_isBlank h⟩
  rw [ofPlain, if_neg hquote, if_neg (ne_of_isBlank h), if_neg (ne_of_isBlank h),
    if_neg (ne_of_isBlank h), if_neg (ne_of_isBlank h), if_pos h]

/-- Outside of literals, quoted names and comments a blank ends what went before. -/
theorem step_blank (offset : Nat) {mode : Mode} {c : Char} (hopen : mode.isOpen = true)
    (h : Text.isBlank c = true) : mode.step offset c = (.plain, mode.finish) := by
  have hplain := ofPlain_blank offset h
  cases mode with
  | plain => exact hplain
  | word start chars => simp [step, isWordChar_of_isBlank h, hplain]
  | nameQuote start chars =>
      have hne : c ≠ '\x60' := ne_of_isBlank h
      simp [step, hne, hplain]
  | hyphen start =>
      have hne : c ≠ '-' := ne_of_isBlank h
      simp [step, hne, hplain]
  | slash start =>
      have hne : c ≠ '*' := ne_of_isBlank h
      simp [step, hne, hplain]
  | name | literal | literalEscape | lineComment | blockComment | blockStar => cases hopen

end Mode

/-- A blank ends what is being read. -/
theorem tokensFrom_blank {mode : Mode} (offset : Nat) {c : Char} (cs : List Char)
    (hopen : mode.isOpen = true) (h : Text.isBlank c = true) :
    tokensFrom mode offset (c :: cs) = mode.finish ++ tokensOf (offset + c.utf8Size) cs := by
  rw [tokensFrom_cons, Mode.step_blank offset hopen h]
  rfl

/-- Text that is split at a blank has the tokens of both parts. -/
theorem tokensOf_append_blank (offset : Nat) (cs ds : List Char) {c : Char}
    (hopen : (modeAfter .plain offset cs).isOpen = true) (h : Text.isBlank c = true) :
    tokensOf offset (cs ++ c :: ds) =
      tokensOf offset cs ++ tokensOf (offset + byteSize cs + c.utf8Size) ds := by
  change tokensFrom .plain offset (cs ++ c :: ds) = _
  rw [tokensFrom_append, tokensFrom_blank _ _ hopen h, ← List.append_assoc]
  rfl

/-- What comes after a blank is read as if it came first. -/
theorem openMarks_blank {mode : Mode} (offset : Nat) {c : Char} (cs : List Char)
    (hopen : mode.isOpen = true) (h : Text.isBlank c = true) :
    openMarks mode offset (c :: cs) = openMarks .plain (offset + c.utf8Size) cs := by
  have hmark : (c == '?') = false := beq_false_of_ne (ne_of_isBlank h)
  rw [openMarks, Mode.step_blank offset hopen h, hmark, Bool.and_false, if_neg Bool.false_ne_true,
    Nat.zero_add]

end Sql

end ScrollCursor
