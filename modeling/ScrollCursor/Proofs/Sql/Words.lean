import ScrollCursor.Proofs.Sql.Scanning

/-! # Where tokens stand

The tokens of a text start in order and inside of it. An unquoted word is always found where a
character of words follows text that ends outside of words, literals, quoted names and comments,
so the tokens before it are those of the text before it read alone.
-/

namespace ScrollCursor

namespace Sql

/-! ## Starts -/

/-- The tokens start at one offset or later, and before another one. -/
def StartWithin (low high : Nat) (ts : List Token) : Prop :=
  ∀ t ∈ ts, low ≤ t.start ∧ t.start < high

namespace StartWithin

variable {low low' high high' : Nat} {ts us : List Token}

theorem nil : StartWithin low high [] := by
  intro t ht
  cases ht

theorem append (hts : StartWithin low high ts) (hus : StartWithin low high us) :
    StartWithin low high (ts ++ us) := by
  intro t ht
  rcases List.mem_append.mp ht with h | h
  · exact hts t h
  · exact hus t h

theorem left (h : StartWithin low high (ts ++ us)) : StartWithin low high ts :=
  fun t ht => h t (List.mem_append_left us ht)

theorem right (h : StartWithin low high (ts ++ us)) : StartWithin low high us :=
  fun t ht => h t (List.mem_append_right ts ht)

theorem of_start_eq {t u : Token} (h : StartWithin low high [t]) (hstart : u.start = t.start) :
    StartWithin low high [u] := by
  intro v hv
  rw [List.mem_singleton.mp hv, hstart]
  exact h t List.mem_cons_self

theorem mono (h : StartWithin low high ts) (hlow : low' ≤ low) (hhigh : high ≤ high') :
    StartWithin low' high' ts := by
  intro t ht
  have ⟨hfrom, hto⟩ := h t ht
  exact ⟨Nat.le_trans hlow hfrom, Nat.lt_of_lt_of_le hto hhigh⟩

end StartWithin

namespace Mode

theorem startWithin_ofPlain (offset : Nat) (c : Char) :
    StartWithin offset (offset + c.utf8Size)
      ((ofPlain offset c).2 ++ (ofPlain offset c).1.finish) := by
  have hsize := c.utf8Size_pos
  intro t ht
  have hstart : t.start = offset := by
    unfold ofPlain at ht
    repeat' split at ht
    all_goals
      simp only [finish, plainToken, nameToken, List.append_nil, List.nil_append,
        List.not_mem_nil, List.mem_singleton] at ht
    all_goals rw [ht]
  omega

/-- A held-back token is complete and the character is read as plain text. -/
theorem startWithin_flush {low offset : Nat} {mode : Mode} (c : Char) (hlow : low ≤ offset)
    (h : StartWithin low offset mode.finish) :
    StartWithin low (offset + c.utf8Size)
      ((mode.finish ++ (ofPlain offset c).2) ++ (ofPlain offset c).1.finish) := by
  rw [List.append_assoc]
  exact (h.mono (Nat.le_refl _) (Nat.le_add_right _ _)).append
    ((startWithin_ofPlain offset c).mono hlow (Nat.le_refl _))

theorem startWithin_step {low offset : Nat} {mode : Mode} (c : Char) (hlow : low ≤ offset)
    (h : StartWithin low offset mode.finish) :
    StartWithin low (offset + c.utf8Size)
      ((mode.step offset c).2 ++ (mode.step offset c).1.finish) := by
  have hflush := startWithin_flush c hlow h
  have hfinish : StartWithin low (offset + c.utf8Size) mode.finish :=
    h.mono (Nat.le_refl _) (Nat.le_add_right offset c.utf8Size)
  -- A mode that goes on keeps the start of its token; the others go back to plain text.
  cases mode with
  | plain => exact hflush
  | word start chars =>
      rw [step]
      split
      · exact hfinish.of_start_eq rfl
      · exact hflush
  | name start chars =>
      rw [step]
      split
      · exact hfinish.of_start_eq rfl
      · exact hfinish.of_start_eq rfl
  | nameQuote start chars =>
      rw [step]
      split
      · exact hfinish.of_start_eq rfl
      · exact hflush
  | hyphen start =>
      rw [step]
      split
      · exact .nil
      · exact hflush
  | slash start =>
      rw [step]
      split
      · exact .nil
      · exact hflush
  | literal quote =>
      rw [step]
      split
      · exact .nil
      · split <;> exact .nil
  | literalEscape quote => exact .nil
  | lineComment =>
      rw [step]
      split <;> exact .nil
  | blockComment =>
      rw [step]
      split <;> exact .nil
  | blockStar =>
      rw [step]
      split
      · exact .nil
      · split <;> exact .nil

end Mode

/-- Every token starts inside the text that it is read from. -/
theorem startWithin_tokensFrom {low offset : Nat} {mode : Mode} (cs : List Char)
    (hlow : low ≤ offset) (h : StartWithin low offset mode.finish) :
    StartWithin low (offset + byteSize cs) (tokensFrom mode offset cs) := by
  induction cs generalizing mode offset with
  | nil => exact h
  | cons c cs ih =>
      have hstep := Mode.startWithin_step c hlow h
      have hrest := ih (Nat.le_add_right_of_le hlow) hstep.right
      have hsize : offset + byteSize (c :: cs) = offset + c.utf8Size + byteSize cs := by
        rw [byteSize_cons, Nat.add_assoc]
      rw [tokensFrom_cons, hsize]
      exact (hstep.left.mono (Nat.le_refl _) (Nat.le_add_right _ _)).append hrest

theorem startWithin_tokensOf (offset : Nat) (cs : List Char) :
    StartWithin offset (offset + byteSize cs) (tokensOf offset cs) :=
  startWithin_tokensFrom cs (Nat.le_refl _) .nil

/-! ## Words -/

namespace Mode

/-- A character of words begins a new word in this mode. -/
def isReady : Mode → Bool
  | .word _ _ => false
  | mode => mode.isOpen

theorem isOpen_of_isReady {mode : Mode} (h : mode.isReady = true) : mode.isOpen = true := by
  cases mode <;> first | rfl | cases h

theorem ofPlain_wordChar (offset : Nat) {c : Char} (h : isWordChar c = true) :
    ofPlain offset c = (.word offset [c], []) := by
  have hne : ∀ d, isWordChar d = false → c ≠ d := by
    intro d hd hcd
    rw [hcd, hd] at h
    cases h
  have hblank : ¬ Text.isBlank c = true := by
    intro hc
    rw [isWordChar_of_isBlank hc] at h
    cases h
  have hquote : ¬ (c = '\'' ∨ c = '"') :=
    not_or.mpr ⟨hne _ (by decide), hne _ (by decide)⟩
  rw [ofPlain, if_neg hquote, if_neg (hne _ (by decide)), if_neg (hne _ (by decide)),
    if_neg (hne _ (by decide)), if_neg (hne _ (by decide)), if_neg hblank, if_pos h]

theorem step_wordChar (offset : Nat) {mode : Mode} {c : Char} (hready : mode.isReady = true)
    (h : isWordChar c = true) : mode.step offset c = (.word offset [c], mode.finish) := by
  have hplain := ofPlain_wordChar offset h
  cases mode with
  | plain => exact hplain
  | nameQuote start chars =>
      have hne : c ≠ '\x60' := by rintro rfl; exact absurd h (by decide)
      simp [step, hne, hplain]
  | hyphen start =>
      have hne : c ≠ '-' := by rintro rfl; exact absurd h (by decide)
      simp [step, hne, hplain]
  | slash start =>
      have hne : c ≠ '*' := by rintro rfl; exact absurd h (by decide)
      simp [step, hne, hplain]
  | word | name | literal | literalEscape | lineComment | blockComment | blockStar => cases hready

theorem ofPlain_eq_word {offset start : Nat} {c : Char} {chars : List Char}
    (h : (ofPlain offset c).1 = .word start chars) : start = offset ∧ isWordChar c = true := by
  unfold ofPlain at h
  repeat' split at h
  all_goals cases h
  exact ⟨rfl, ‹isWordChar c = true›⟩

/-- Plain text yields no word at once. -/
theorem not_isPlainWord_of_mem_ofPlain {offset : Nat} {c : Char} {t : Token}
    (ht : t ∈ (ofPlain offset c).2) : t.isPlainWord = false := by
  by_cases hword : isWordChar c = true
  · rw [ofPlain_wordChar offset hword] at ht
    cases ht
  · unfold ofPlain at ht
    repeat' split at ht
    all_goals simp only [List.not_mem_nil, List.mem_singleton] at ht
    rw [ht]
    simpa [Token.isPlainWord, Token.isWord, plainToken] using hword

theorem eq_word_of_mem_finish {mode : Mode} {t : Token} (ht : t ∈ mode.finish)
    (hword : t.isPlainWord = true) : ∃ chars, mode = .word t.start chars := by
  cases mode with
  | word start chars =>
      rw [List.mem_singleton.mp ht]
      exact ⟨chars, rfl⟩
  | name start chars | nameQuote start chars =>
      rw [List.mem_singleton.mp ht] at hword
      cases hword
  | hyphen start =>
      have hno : isWordChar '-' = false := by decide
      rw [List.mem_singleton.mp ht] at hword
      simp [Token.isPlainWord, Token.isWord, plainToken, hno] at hword
  | slash start =>
      have hno : isWordChar '/' = false := by decide
      rw [List.mem_singleton.mp ht] at hword
      simp [Token.isPlainWord, Token.isWord, plainToken, hno] at hword
  | plain | literal | literalEscape | lineComment | blockComment | blockStar => cases ht

/-- A word is completed by the character after it. -/
theorem eq_word_of_mem_step {offset : Nat} {mode : Mode} {c : Char} {t : Token}
    (ht : t ∈ (mode.step offset c).2) (hword : t.isPlainWord = true) :
    ∃ chars, mode = .word t.start chars := by
  have hflush (h : t ∈ mode.finish ++ (ofPlain offset c).2) :
      ∃ chars, mode = .word t.start chars := by
    rcases List.mem_append.mp h with h | h
    · exact eq_word_of_mem_finish h hword
    · rw [not_isPlainWord_of_mem_ofPlain h] at hword
      cases hword
  cases mode with
  | plain => exact hflush ht
  | word | nameQuote | hyphen | slash =>
      rw [step] at ht
      split at ht
      · cases ht
      · exact hflush ht
  | name | lineComment | blockComment =>
      rw [step] at ht
      split at ht <;> cases ht
  | literal | blockStar =>
      rw [step] at ht
      split at ht
      · cases ht
      · split at ht <;> cases ht
  | literalEscape => cases ht

/-- A word that is being read goes on from before or has just begun. -/
theorem eq_word_or_isReady_of_step {offset start : Nat} {mode : Mode} {c : Char}
    {chars : List Char} (h : (mode.step offset c).1 = .word start chars) :
    (∃ before, mode = .word start before) ∨
      start = offset ∧ mode.isReady = true ∧ isWordChar c = true := by
  cases mode with
  | plain =>
      have ⟨hstart, hc⟩ := ofPlain_eq_word h
      exact Or.inr ⟨hstart, rfl, hc⟩
  | word from_ before =>
      by_cases hc : isWordChar c = true
      · rw [step, if_pos hc] at h
        cases h
        exact Or.inl ⟨before, rfl⟩
      · rw [step, if_neg hc] at h
        exact absurd (ofPlain_eq_word h).2 hc
  | nameQuote | hyphen | slash =>
      rw [step] at h
      split at h
      · cases h
      · have ⟨hstart, hc⟩ := ofPlain_eq_word h
        exact Or.inr ⟨hstart, rfl, hc⟩
  | name | lineComment | blockComment =>
      rw [step] at h
      split at h <;> cases h
  | literal | blockStar =>
      rw [step] at h
      split at h
      · cases h
      · split at h <;> cases h
  | literalEscape => cases h

end Mode

/-- An unquoted word that is found in a text was being read already, or begins after a part of
the text that leaves the scanner ready for a word. -/
theorem exists_start_of_isPlainWord {mode : Mode} {offset : Nat} {cs : List Char} {t : Token}
    (ht : t ∈ tokensFrom mode offset cs) (hword : t.isPlainWord = true) :
    (∃ chars, mode = .word t.start chars) ∨
      ∃ pre c post, cs = pre ++ c :: post ∧ t.start = offset + byteSize pre ∧
        (modeAfter mode offset pre).isReady = true ∧ isWordChar c = true := by
  induction cs generalizing mode offset with
  | nil => exact Or.inl (Mode.eq_word_of_mem_finish ht hword)
  | cons c cs ih =>
      rw [tokensFrom_cons] at ht
      rcases List.mem_append.mp ht with h | h
      · exact Or.inl (Mode.eq_word_of_mem_step h hword)
      · rcases ih h with ⟨chars, hstep⟩ | ⟨pre, d, post, hcs, hstart, hready, hd⟩
        · rcases Mode.eq_word_or_isReady_of_step hstep with hmode | ⟨hstart, hready, hc⟩
          · exact Or.inl hmode
          · exact Or.inr ⟨[], c, cs, rfl, hstart, hready, hc⟩
        · refine Or.inr ⟨c :: pre, d, post, ?_, ?_, hready, hd⟩
          · rw [hcs, List.cons_append]
          · rw [hstart, byteSize_cons, Nat.add_assoc]

/-- The text before an unquoted word has the same tokens alone as in the whole. -/
theorem exists_split_of_isPlainWord {cs : List Char} {t : Token} (ht : t ∈ tokensOf 0 cs)
    (hword : t.isPlainWord = true) :
    ∃ pre post, cs = pre ++ post ∧ t.start = byteSize pre ∧
      (modeAfter .plain 0 pre).isOpen = true ∧
      (tokensOf 0 cs).filter (fun u => decide (u.start < t.start)) = tokensOf 0 pre := by
  obtain ⟨chars, hmode⟩ | ⟨pre, c, post, hcs, hstart, hready, hc⟩ :=
    show (∃ chars, Mode.plain = .word t.start chars) ∨ _ from exists_start_of_isPlainWord ht hword
  · cases hmode
  rw [Nat.zero_add] at hstart
  refine ⟨pre, c :: post, hcs, hstart, Mode.isOpen_of_isReady hready, ?_⟩
  have hsplit : tokensOf 0 cs =
      tokensOf 0 pre ++ tokensFrom (.word t.start [c]) (t.start + c.utf8Size) post := by
    change tokensFrom .plain 0 cs = _
    rw [hcs, tokensFrom_append, tokensFrom_cons, Mode.step_wordChar _ hready hc,
      ← List.append_assoc, hstart, Nat.zero_add]
    rfl
  have hbefore := startWithin_tokensOf 0 pre
  have hword : StartWithin t.start (t.start + c.utf8Size) (Mode.word t.start [c]).finish := by
    intro u hu
    rw [List.mem_singleton.mp hu]
    exact ⟨Nat.le_refl _, Nat.lt_add_of_pos_right c.utf8Size_pos⟩
  have hafter := startWithin_tokensFrom post (Nat.le_add_right t.start c.utf8Size) hword
  rw [Nat.zero_add, ← hstart] at hbefore
  rw [hsplit, List.filter_append, List.filter_eq_self.mpr, List.filter_eq_nil_iff.mpr,
    List.append_nil]
  · intro u hu
    simpa using (hafter u hu).1
  · intro u hu
    simpa using (hbefore u hu).2

/-- The characters before a byte offset are those that take so many bytes. -/
theorem takeBytes_byteSize (pre post : List Char) :
    takeBytes (byteSize pre) (pre ++ post) = pre := by
  induction pre with
  | nil =>
      cases post with
      | nil => rfl
      | cons c post =>
          change (if 0 < c.utf8Size then [] else _) = _
          rw [if_pos c.utf8Size_pos]
  | cons c pre ih =>
      rw [List.cons_append, takeBytes, byteSize_cons, if_neg (Nat.not_lt.mpr (Nat.le_add_right _ _)),
        Nat.add_sub_cancel_left, ih]

end Sql

end ScrollCursor
