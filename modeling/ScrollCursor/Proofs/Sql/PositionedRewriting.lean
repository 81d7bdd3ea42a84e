import Mathlib.Data.List.TakeWhile
import ScrollCursor.Proofs.Sql.Rendering
import ScrollCursor.Sql.Positioned

/-! # Rewriting positioned statements

A positioned statement is carried out with a predicate in place of its clause. The text before
the clause loses the blanks at its end and the predicate is appended without reading the text
again. The result reads as it should unless the text before the clause ends in a line comment:
the line feed that ends the comment is such a blank, and without it the comment goes on over the
predicate.
-/

namespace ScrollCursor

namespace Sql

/-! ## Blanks at the end -/

theorem exists_append_trimEnd (cs : List Char) :
    ∃ blanks, cs = Text.trimEnd cs ++ blanks ∧ ∀ b ∈ blanks, Text.isBlank b = true := by
  refine ⟨(cs.reverse.takeWhile Text.isBlank).reverse, ?_, fun b hb => ?_⟩
  · rw [Text.trimEnd, ← List.reverse_append, List.takeWhile_append_dropWhile, List.reverse_reverse]
  · exact List.mem_takeWhile_imp (List.mem_reverse.mp hb)

namespace Mode

/-- A literal stands in one of the two quotes that begin one. -/
def IsProper : Mode → Prop
  | .literal quote | .literalEscape quote => quote = '\'' ∨ quote = '"'
  | _ => True

theorem isProper_ofPlain (offset : Nat) (c : Char) : (ofPlain offset c).1.IsProper := by
  unfold ofPlain
  repeat' split
  · assumption
  all_goals trivial

theorem isProper_step (offset : Nat) {mode : Mode} (c : Char) (h : mode.IsProper) :
    (mode.step offset c).1.IsProper := by
  have hplain := isProper_ofPlain offset c
  cases mode with
  | plain => exact hplain
  | word | nameQuote | hyphen | slash =>
      rw [step]
      split
      · trivial
      · exact hplain
  | name | lineComment | blockComment =>
      rw [step]
      split <;> trivial
  | literal quote =>
      rw [step]
      split
      · trivial
      · split <;> exact h
  | literalEscape quote => exact h
  | blockStar =>
      rw [step]
      split
      · trivial
      · split <;> trivial

end Mode

theorem isProper_modeAfter {mode : Mode} (offset : Nat) (cs : List Char) (h : mode.IsProper) :
    (modeAfter mode offset cs).IsProper := by
  induction cs generalizing mode offset with
  | nil => exact h
  | cons c cs ih => exact ih _ (Mode.isProper_step offset c h)

/-- Blanks lead outside of everything only from there, or from a line comment. -/
theorem isOpen_or_lineComment {mode : Mode} (offset : Nat) {blanks : List Char}
    (hproper : mode.IsProper) (hblanks : ∀ b ∈ blanks, Text.isBlank b = true)
    (hopen : (modeAfter mode offset blanks).isOpen = true) :
    mode.isOpen = true ∨ mode = .lineComment := by
  induction blanks generalizing mode offset with
  | nil => exact Or.inl hopen
  | cons b blanks ih =>
      have hb := hblanks b List.mem_cons_self
      have hstep := ih _ (Mode.isProper_step offset b hproper)
        (fun d hd => hblanks d (List.mem_cons_of_mem b hd)) hopen
      cases mode with
      | plain | word | nameQuote | hyphen | slash => exact Or.inl rfl
      | lineComment => exact Or.inr rfl
      | name start chars =>
          rw [Mode.step, if_neg (ne_of_isBlank hb)] at hstep
          rcases hstep with h | h <;> cases h
      | literal quote =>
          have hquote : b ≠ quote := by
            rcases hproper with rfl | rfl
            · exact ne_of_isBlank hb
            · exact ne_of_isBlank hb
          rw [Mode.step, if_neg hquote, if_neg (ne_of_isBlank hb)] at hstep
          rcases hstep with h | h <;> cases h
      | literalEscape quote => rcases hstep with h | h <;> cases h
      | blockComment =>
          rw [Mode.step, if_neg (ne_of_isBlank hb)] at hstep
          rcases hstep with h | h <;> cases h
      | blockStar =>
          rw [Mode.step, if_neg (ne_of_isBlank hb), if_neg (ne_of_isBlank hb)] at hstep
          rcases hstep with h | h <;> cases h

/-- Blanks outside of everything or in a line comment add no tokens. -/
theorem tokensFrom_blanks {mode : Mode} (offset : Nat) {blanks : List Char}
    (hmode : mode.isOpen = true ∨ mode = .lineComment)
    (hblanks : ∀ b ∈ blanks, Text.isBlank b = true) :
    tokensFrom mode offset blanks = mode.finish := by
  induction blanks generalizing mode offset with
  | nil => rfl
  | cons b blanks ih =>
      have hb := hblanks b List.mem_cons_self
      have hrest : ∀ d ∈ blanks, Text.isBlank d = true :=
        fun d hd => hblanks d (List.mem_cons_of_mem b hd)
      rcases hmode with hopen | rfl
      · rw [tokensFrom_blank _ _ hopen hb]
        change mode.finish ++ tokensFrom .plain _ blanks = _
        rw [ih _ (Or.inl rfl) hrest]
        exact List.append_nil _
      · rw [tokensFrom_cons, Mode.step]
        split
        · exact ih _ (Or.inl rfl) hrest
        · exact ih _ (Or.inr rfl) hrest

theorem openMarks_blanks {mode : Mode} (offset : Nat) {blanks : List Char}
    (hmode : mode.isOpen = true ∨ mode = .lineComment)
    (hblanks : ∀ b ∈ blanks, Text.isBlank b = true) : openMarks mode offset blanks = 0 := by
  induction blanks generalizing mode offset with
  | nil => rfl
  | cons b blanks ih =>
      have hb := hblanks b List.mem_cons_self
      have hrest : ∀ d ∈ blanks, Text.isBlank d = true :=
        fun d hd => hblanks d (List.mem_cons_of_mem b hd)
      rcases hmode with hopen | rfl
      · rw [openMarks_blank _ _ hopen hb]
        exact ih _ (Or.inl rfl) hrest
      · change 0 + openMarks (Mode.lineComment.step offset b).1 _ blanks = 0
        rw [Nat.zero_add, Mode.step]
        split
        · exact ih _ (Or.inl rfl) hrest
        · exact ih _ (Or.inr rfl) hrest

/-- A text that ends outside of everything keeps its tokens and placeholders without the blanks
at its end, and ends there or in a line comment. -/
theorem scan_trimEnd {cs : List Char} (hopen : (modeAfter .plain 0 cs).isOpen = true) :
    ((modeAfter .plain 0 (Text.trimEnd cs)).isOpen = true ∨
        modeAfter .plain 0 (Text.trimEnd cs) = .lineComment) ∧
      tokensOf 0 cs = tokensOf 0 (Text.trimEnd cs) ∧
      openMarks .plain 0 cs = openMarks .plain 0 (Text.trimEnd cs) := by
  obtain ⟨blanks, hcs, hblanks⟩ := exists_append_trimEnd cs
  rw [hcs, modeAfter_append] at hopen
  have hproper : (modeAfter .plain 0 (Text.trimEnd cs)).IsProper :=
    isProper_modeAfter 0 (Text.trimEnd cs) trivial
  have hmode := isOpen_or_lineComment _ hproper hblanks hopen
  refine ⟨hmode, ?_, ?_⟩
  · conv_lhs => rw [hcs]
    change tokensFrom .plain 0 _ = _
    rw [tokensFrom_append, tokensFrom_blanks _ hmode hblanks]
    rfl
  · conv_lhs => rw [hcs]
    rw [openMarks_append, openMarks_blanks _ hmode hblanks, Nat.add_zero]

/-! ## The clause -/

theorem isWordChar_of_toUpper {c d : Char} (h : c.toUpper = d) (hd : isWordChar d = true) :
    isWordChar c = true := by
  unfold Char.toUpper at h
  split at h
  next hlower =>
    have hletter : c.isLower = true :=
      Bool.and_eq_true_iff.mpr ⟨decide_eq_true hlower.1, decide_eq_true hlower.2⟩
    have halpha : c.isAlpha = true := Bool.or_eq_true_iff.mpr (.inr hletter)
    have halphanum : c.isAlphanum = true := Bool.or_eq_true_iff.mpr (.inl halpha)
    rw [isWordChar, Text.isAlphanumeric_of_isAlphanum halphanum]
    rfl
  next => rwa [h]

theorem isPlainWord_of_isKeyword {t : Token} {d : Char} {keyword : List Char}
    (hd : isWordChar d.toUpper = true) (h : t.isKeyword (String.ofList (d :: keyword)) = true) :
    t.isPlainWord = true := by
  simp only [Token.isKeyword, Bool.and_eq_true, Bool.not_eq_true'] at h
  obtain ⟨hquoted, hname⟩ := h
  have hupper := String.ofList_injective (Text.sameName_iff.mp hname)
  rw [String.toList_ofList, List.map_cons] at hupper
  obtain ⟨c, cs, htext, hc, -⟩ := List.map_eq_cons_iff.mp hupper
  simp only [Token.isPlainWord, Token.isWord, hquoted, htext, List.head?_cons, Option.map_some,
    Option.getD_some, isWordChar_of_toUpper hc hd]
  rfl

/-- A positioned clause begins at the keyword `WHERE` among the tokens of the statement. -/
theorem exists_keyword_of_positioned {sql : String} {clause : PositionedClause}
    (h : (StatementText.parse sql).positioned = some clause) :
    ∃ t ∈ tokens sql, t.isKeyword "WHERE" = true ∧ t.start = clause.offset := by
  simp only [StatementText.parse] at h
  split at h
  next =>
    simp only [PositionedClause.ofTokens?, PositionedClause.ofReversed?] at h
    split at h
    next name of current whereToken rest hlist =>
      split at h
      next hwords =>
        cases h
        simp only [Bool.and_eq_true] at hwords
        have hmem : whereToken ∈ (tokens sql).reverse.dropWhile (Token.isSymbol · ";") := by
          rw [hlist]
          simp
        exact ⟨whereToken, List.mem_reverse.mp ((List.dropWhile_sublist _).mem hmem),
          hwords.1.1.1, rfl⟩
      next => cases h
    next => cases h
  next => cases h

theorem exists_where_of_positioned {sql : String} {clause : PositionedClause}
    (h : (StatementText.parse sql).positioned = some clause) :
    ∃ t ∈ tokens sql, t.isPlainWord = true ∧ t.start = clause.offset := by
  obtain ⟨t, ht, hwhere, hstart⟩ := exists_keyword_of_positioned h
  have hkeyword : t.isKeyword (String.ofList ('W' :: "HERE".toList)) = true := hwhere
  exact ⟨t, ht, isPlainWord_of_isKeyword (by decide) hkeyword, hstart⟩

/-- The text before a positioned clause ends outside of literals, quoted names and comments, and
its tokens are those of the statement that start before the clause. -/
theorem head_of_positioned {sql : String} {clause : PositionedClause}
    (h : (StatementText.parse sql).positioned = some clause) :
    (modeAfter .plain 0 (takeBytes clause.offset sql.toList)).isOpen = true ∧
      (tokens sql).filter (fun t => decide (t.start < clause.offset)) =
        tokensOf 0 (takeBytes clause.offset sql.toList) := by
  obtain ⟨t, ht, hword, hstart⟩ := exists_where_of_positioned h
  obtain ⟨pre, post, hsql, hpre, hopen, hfilter⟩ := exists_split_of_isPlainWord ht hword
  rw [hstart] at hpre hfilter
  have hhead : takeBytes clause.offset sql.toList = pre := by
    rw [hsql, hpre, takeBytes_byteSize]
  rw [hhead]
  exact ⟨hopen, hfilter⟩

/-! ## The rewritten statement -/

/-- A rewritten statement has the tokens of the original before its clause, the word `WHERE` and
the tokens of the predicate, in this order, and the placeholders of both parts. -/
structure ReadsAsRewritten (sql : String) (clause : PositionedClause)
    (predicate rewritten : String) : Prop where
  tokens : (tokens rewritten).map Token.spelling =
    ((tokens sql).filter fun t => decide (t.start < clause.offset)).map Token.spelling ++
      ("WHERE", false) :: (tokens predicate).map Token.spelling
  placeholders : placeholders rewritten =
    placeholders (String.ofList (takeBytes clause.offset sql.toList)) + placeholders predicate

/-- Outside of everything `WHERE` between blanks is a token, and plain text follows. -/
theorem tokensFrom_where {mode : Mode} (offset : Nat) (cs : List Char)
    (hopen : mode.isOpen = true) :
    (tokensFrom mode offset (" WHERE ".toList ++ cs)).map Token.spelling =
      mode.finish.map Token.spelling ++
        ("WHERE", false) :: (tokensOf 0 cs).map Token.spelling := by
  have htext : " WHERE ".toList ++ cs = ' ' :: ("WHERE".toList ++ ' ' :: cs) := rfl
  have hword (offset : Nat) : (modeAfter .plain offset "WHERE".toList).isOpen = true := rfl
  have hwhere (offset : Nat) :
      (tokensOf offset "WHERE".toList).map Token.spelling = [("WHERE", false)] := rfl
  rw [htext, tokensFrom_blank _ _ hopen (by decide),
    tokensOf_append_blank _ _ _ (hword _) (by decide), List.map_append, List.map_append, hwhere,
    spelling_tokensOf]
  rfl

theorem openMarks_where {mode : Mode} (offset : Nat) (cs : List Char)
    (hopen : mode.isOpen = true) :
    openMarks mode offset (" WHERE ".toList ++ cs) = openMarks .plain 0 cs := by
  have htext : " WHERE ".toList ++ cs = ' ' :: ("WHERE".toList ++ ' ' :: cs) := rfl
  have hword (offset : Nat) : (modeAfter .plain offset "WHERE".toList).isOpen = true := rfl
  have hwhere (offset : Nat) : openMarks .plain offset "WHERE".toList = 0 := rfl
  rw [htext, openMarks_blank _ _ hopen (by decide), openMarks_append, hwhere, Nat.zero_add,
    openMarks_blank _ _ (hword _) (by decide), openMarks_plain]

/-- In a line comment nothing of `WHERE` is read. -/
theorem tokensFrom_lineComment_where (offset : Nat) (cs : List Char) :
    tokensFrom .lineComment offset (" WHERE ".toList ++ cs) =
      tokensFrom .lineComment (offset + byteSize " WHERE ".toList) cs := by
  have hfeed : '\n' ∉ " WHERE ".toList := by decide
  rw [tokensFrom_append, completed_lineComment offset hfeed, modeAfter_lineComment offset hfeed,
    List.nil_append]

theorem tokens_rewritten (text : List Char) (predicate : String) :
    tokens (String.ofList text ++ " WHERE " ++ predicate) =
      completed .plain 0 text ++
        tokensFrom (modeAfter .plain 0 text) (0 + byteSize text)
          (" WHERE ".toList ++ predicate.toList) := by
  rw [tokens, String.toList_append, String.toList_append, String.toList_ofList,
    List.append_assoc]
  exact tokensFrom_append .plain 0 text _

theorem placeholders_rewritten (text : List Char) (predicate : String) :
    placeholders (String.ofList text ++ " WHERE " ++ predicate) =
      openMarks .plain 0 text +
        openMarks (modeAfter .plain 0 text) (0 + byteSize text)
          (" WHERE ".toList ++ predicate.toList) := by
  rw [placeholders, String.toList_append, String.toList_append, String.toList_ofList,
    List.append_assoc]
  exact openMarks_append .plain 0 text _

/-- After a line comment the tokens of a predicate in backticks are never complete: a line feed
that stands in one of its names ends the comment and is lost, and without one everything is. -/
theorem tokensFrom_lineComment_ne {s : Dialect} {terms : List ColumnValue} {f : Fragment}
    (hquote : s.quote = .backtick) (h : s.predicate terms = .ok f) (offset : Nat) :
    (tokensFrom .lineComment offset f.sql.toList).map Token.spelling ≠
      ("WHERE", false) :: (tokens f.sql).map Token.spelling := by
  intro heq
  by_cases hfeed : '\n' ∈ f.sql.toList
  · have hlt := feeds_tokensFrom_lineComment_lt offset hfeed
    have hwhere : (tokensFrom .lineComment offset f.sql.toList).map Token.spelling =
        (⟨"WHERE", 0, false⟩ :: tokens f.sql).map Token.spelling := heq
    have hfeeds := feeds_eq_of_spelling hwhere
    have hcons : feeds (⟨"WHERE", 0, false⟩ :: tokens f.sql) = feeds (tokens f.sql) :=
      (feeds_append [⟨"WHERE", 0, false⟩] (tokens f.sql)).trans (Nat.zero_add _)
    rw [hcons, Dialect.feeds_tokens_predicate hquote h] at hfeeds
    omega
  · rw [tokensFrom_lineComment offset hfeed] at heq
    cases heq

/-- A positioned statement is rewritten as it should be exactly if its text before the clause does
not end in a line comment once the blanks at its end are gone. -/
theorem withPredicate_readsAsRewritten_iff {s : Dialect} {sql : String}
    {clause : PositionedClause} {terms : List ColumnValue} {f : Fragment}
    (hquote : s.quote = .backtick)
    (hclause : (StatementText.parse sql).positioned = some clause)
    (hpredicate : s.predicate terms = .ok f) :
    ∃ rewritten, (StatementText.parse sql).withPredicate? f.sql = some rewritten ∧
      (ReadsAsRewritten sql clause f.sql rewritten ↔
        modeAfter .plain 0 (Text.trimEnd (takeBytes clause.offset sql.toList)) ≠
          .lineComment) := by
  have ⟨hopen, hbefore⟩ := head_of_positioned hclause
  obtain ⟨hmode, htokens, hmarks⟩ := scan_trimEnd hopen
  rw [StatementText.withPredicate?, hclause]
  refine ⟨_, rfl, ?_⟩
  change ReadsAsRewritten _ _ _ (String.ofList (Text.trimEnd (takeBytes clause.offset sql.toList))
    ++ " WHERE " ++ f.sql) ↔ _
  generalize Text.trimEnd (takeBytes clause.offset sql.toList) = text at *
  rcases hmode with htext | htext
  · have hne : modeAfter .plain 0 text ≠ .lineComment := by
      intro h
      rw [h] at htext
      cases htext
    have hsplit : tokensOf 0 text = completed .plain 0 text ++ (modeAfter .plain 0 text).finish :=
      rfl
    refine iff_of_true ⟨?_, ?_⟩ hne
    · rw [tokens_rewritten, List.map_append, tokensFrom_where _ _ htext, hbefore, htokens, hsplit,
        List.map_append, List.append_assoc]
      rfl
    · rw [placeholders_rewritten, openMarks_where _ _ htext, placeholders, placeholders,
        String.toList_ofList, hmarks]
  · refine iff_of_false (fun hreads => ?_) (fun hne => hne htext)
    have hsplit : tokensOf 0 text = completed .plain 0 text := by
      rw [tokensOf, htext]
      exact List.append_nil _
    have heq := hreads.tokens
    rw [tokens_rewritten, htext, tokensFrom_lineComment_where, List.map_append, hbefore, htokens,
      hsplit] at heq
    exact tokensFrom_lineComment_ne hquote hpredicate _ (List.append_cancel_left heq)

/-- A literal and a block comment before the clause. -/
theorem withPredicate_readsAsRewritten_update :
    ∃ rewritten,
      (StatementText.parse "UPDATE t SET a='--' /* x */ WHERE CURRENT OF c").withPredicate?
          "\x60id\x60=3" = some rewritten ∧
        (ReadsAsRewritten "UPDATE t SET a='--' /* x */ WHERE CURRENT OF c" ⟨"c", 28⟩
            "\x60id\x60=3" rewritten ↔
          modeAfter .plain 0 (Text.trimEnd (takeBytes 28
            "UPDATE t SET a='--' /* x */ WHERE CURRENT OF c".toList)) ≠ .lineComment) :=
  have hpredicate : Dialect.predicate {} [⟨"id", .integer, .integer 3⟩] =
      .ok (.raw "\x60id\x60=3") := rfl
  withPredicate_readsAsRewritten_iff rfl (by decide +kernel) hpredicate

/-- A line comment before the clause swallows the predicate. -/
theorem withPredicate_lineComment :
    ∃ rewritten,
      (StatementText.parse "DELETE FROM t -- every row\nWHERE CURRENT OF c").positioned =
          some ⟨"c", 27⟩ ∧
        Dialect.predicate {} [⟨"id", .integer, .integer 3⟩] = .ok (.raw "\x60id\x60=3") ∧
        (StatementText.parse "DELETE FROM t -- every row\nWHERE CURRENT OF c").withPredicate?
          "\x60id\x60=3" = some rewritten ∧
        ¬ ReadsAsRewritten "DELETE FROM t -- every row\nWHERE CURRENT OF c" ⟨"c", 27⟩
          "\x60id\x60=3" rewritten := by
  refine ⟨"DELETE FROM t -- every row WHERE \x60id\x60=3", by decide +kernel, rfl,
    by decide +kernel, ?_⟩
  intro h
  have htokens := h.tokens
  revert htokens
  decide +kernel

end Sql

end ScrollCursor
