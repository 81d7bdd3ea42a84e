import ScrollCursor.Proofs.Sql.Words

/-! # Line feeds in tokens

A line feed of a statement either stands in a quoted name, and then in the token of that name,
or in no token at all. So a text whose line feeds are all read inside of quoted names has exactly
as many in its tokens, and no text has more.
-/

namespace ScrollCursor

namespace Sql

/-- The line feeds in the texts of some tokens. -/
def feeds (ts : List Token) : Nat :=
  (ts.flatMap fun t => t.text.toList).count '\n'

theorem feeds_append (ts us : List Token) : feeds (ts ++ us) = feeds ts + feeds us := by
  rw [feeds, List.flatMap_append, List.count_append]
  rfl

theorem feeds_singleton (t : Token) : feeds [t] = t.text.toList.count '\n' := by
  rw [feeds, List.flatMap_singleton]

/-- Tokens that say the same have the same line feeds. -/
theorem feeds_eq_of_spelling {ts us : List Token}
    (h : ts.map Token.spelling = us.map Token.spelling) : feeds ts = feeds us := by
  have htexts := congrArg (List.flatMap fun s : String × Bool => s.1.toList) h
  rw [List.flatMap_map, List.flatMap_map] at htexts
  exact congrArg (List.count '\n') htexts

namespace Mode

/-- A quoted name is being read. -/
def isName : Mode → Bool
  | .name _ _ => true
  | _ => false

/-- The line feed that a character adds to the token that is being read. -/
def feed (mode : Mode) (c : Char) : Nat :=
  if mode.isName && c == '\n' then 1 else 0

theorem feed_eq_zero {mode : Mode} (c : Char) (h : mode.isName = false) : mode.feed c = 0 := by
  rw [feed, h, Bool.false_and, if_neg Bool.false_ne_true]

theorem feed_le (mode : Mode) (c : Char) : mode.feed c ≤ [c].count '\n' := by
  by_cases hc : c = '\n'
  · rw [hc, feed]
    split <;> decide
  · have hne : (c == '\n') = false := beq_false_of_ne hc
    rw [feed, hne, Bool.and_false, if_neg Bool.false_ne_true]
    exact Nat.zero_le _

/-- A character that is no line feed. -/
theorem count_singleton_of_ne {c : Char} (h : c ≠ '\n') : [c].count '\n' = 0 :=
  List.count_eq_zero.mpr fun hmem => h (List.mem_singleton.mp hmem).symm

theorem feeds_plainToken (start : Nat) (chars : List Char) :
    feeds [plainToken start chars] = chars.count '\n' := by
  rw [feeds_singleton, plainToken, String.toList_ofList]

theorem feeds_nameToken (start : Nat) (chars : List Char) :
    feeds [nameToken start chars] = chars.count '\n' := by
  rw [feeds_singleton, nameToken, String.toList_ofList]

theorem feeds_ofPlain (offset : Nat) (c : Char) :
    feeds ((ofPlain offset c).2 ++ (ofPlain offset c).1.finish) = 0 := by
  by_cases hc : c = '\n'
  · rw [hc, ofPlain_blank offset (by decide)]
    rfl
  · have hfeed := count_singleton_of_ne hc
    unfold ofPlain
    repeat' split
    · rfl
    · exact feeds_nameToken offset []
    · rfl
    · exact feeds_plainToken offset ['-']
    · exact feeds_plainToken offset ['/']
    · rfl
    · exact (feeds_plainToken offset [c]).trans hfeed
    · exact (feeds_plainToken offset [c]).trans hfeed

/-- One character adds a line feed to the tokens only if it is one and stands in a name. -/
theorem feeds_step (offset : Nat) (mode : Mode) (c : Char) :
    feeds ((mode.step offset c).2 ++ (mode.step offset c).1.finish) =
      feeds mode.finish + mode.feed c := by
  have hflush : feeds ((mode.finish ++ (ofPlain offset c).2) ++ (ofPlain offset c).1.finish) =
      feeds mode.finish := by
    rw [List.append_assoc, feeds_append, feeds_ofPlain, Nat.add_zero]
  cases mode with
  | plain => exact hflush
  | word start chars =>
      rw [feed_eq_zero c rfl, Nat.add_zero, step]
      split
      next hword =>
        have hne : c ≠ '\n' := by
          rintro rfl
          exact absurd hword (by decide)
        rw [List.nil_append, finish, finish, feeds_plainToken, feeds_plainToken,
          List.count_append, count_singleton_of_ne hne, Nat.add_zero]
      next => exact hflush
  | name start chars =>
      rw [step]
      split
      next hquote =>
        rw [hquote]
        rfl
      next hquote =>
        rw [List.nil_append, finish, finish, feeds_nameToken, feeds_nameToken,
          List.count_append]
        by_cases hc : c = '\n'
        · rw [hc]
          rfl
        · have hne : (c == '\n') = false := beq_false_of_ne hc
          rw [count_singleton_of_ne hc, feed, hne, Bool.and_false, if_neg Bool.false_ne_true]
  | nameQuote start chars =>
      rw [feed_eq_zero c rfl, Nat.add_zero, step]
      split
      next hquote =>
        have hne : c ≠ '\n' := by
          rw [hquote]
          decide
        rw [List.nil_append, finish, finish, feeds_nameToken, feeds_nameToken,
          List.count_append, count_singleton_of_ne hne, Nat.add_zero]
      next => exact hflush
  | hyphen start =>
      rw [feed_eq_zero c rfl, Nat.add_zero, step]
      split
      · exact (feeds_plainToken start ['-']).symm
      · exact hflush
  | slash start =>
      rw [feed_eq_zero c rfl, Nat.add_zero, step]
      split
      · exact (feeds_plainToken start ['/']).symm
      · exact hflush
  | literal quote | blockStar =>
      rw [step]
      split
      · rfl
      · split <;> rfl
  | literalEscape quote => rfl
  | lineComment | blockComment =>
      rw [step]
      split <;> rfl

end Mode

/-- The line feeds among some characters that are read inside of quoted names. -/
def namedFeeds : Mode → Nat → List Char → Nat
  | _, _, [] => 0
  | mode, offset, c :: cs =>
      mode.feed c + namedFeeds (mode.step offset c).1 (offset + c.utf8Size) cs

theorem namedFeeds_append (mode : Mode) (offset : Nat) (cs ds : List Char) :
    namedFeeds mode offset (cs ++ ds) =
      namedFeeds mode offset cs +
        namedFeeds (modeAfter mode offset cs) (offset + byteSize cs) ds := by
  induction cs generalizing mode offset with
  | nil => simp [namedFeeds, modeAfter, byteSize]
  | cons c cs ih => simp [namedFeeds, modeAfter, byteSize, ih, Nat.add_assoc]

theorem namedFeeds_le (mode : Mode) (offset : Nat) (cs : List Char) :
    namedFeeds mode offset cs ≤ cs.count '\n' := by
  induction cs generalizing mode offset with
  | nil => exact Nat.le_refl _
  | cons c cs ih =>
      have hhead := mode.feed_le c
      have hrest := ih (mode.step offset c).1 (offset + c.utf8Size)
      rw [List.count_cons, namedFeeds]
      rw [List.count_singleton] at hhead
      omega

/-- The line feeds in the tokens of a text are those of its quoted names. -/
theorem feeds_tokensFrom (mode : Mode) (offset : Nat) (cs : List Char) :
    feeds (tokensFrom mode offset cs) = feeds mode.finish + namedFeeds mode offset cs := by
  induction cs generalizing mode offset with
  | nil => rfl
  | cons c cs ih =>
      have hstep := Mode.feeds_step offset mode c
      rw [feeds_append] at hstep
      rw [tokensFrom_cons, feeds_append, ih, namedFeeds]
      omega

theorem feeds_tokensOf (offset : Nat) (cs : List Char) :
    feeds (tokensOf offset cs) = namedFeeds .plain offset cs :=
  (feeds_tokensFrom .plain offset cs).trans (Nat.zero_add _)

/-- What follows a line comment loses the line feed that ends it. -/
theorem feeds_tokensFrom_lineComment_lt (offset : Nat) {cs : List Char} (h : '\n' ∈ cs) :
    feeds (tokensFrom .lineComment offset cs) < cs.count '\n' := by
  induction cs generalizing offset with
  | nil => cases h
  | cons c cs ih =>
      by_cases hc : c = '\n'
      · subst hc
        have hle := namedFeeds_le .plain (offset + '\n'.utf8Size) cs
        have hstep : Mode.lineComment.step offset '\n' = (.plain, []) := rfl
        rw [tokensFrom_cons, hstep, List.nil_append, List.count_cons_self]
        change feeds (tokensOf _ cs) < _
        rw [feeds_tokensOf]
        omega
      · have hmem : '\n' ∈ cs := (List.mem_cons.mp h).resolve_left (Ne.symm hc)
        have hstep : Mode.lineComment.step offset c = (.lineComment, []) := by
          rw [Mode.step, if_neg hc]
        rw [tokensFrom_cons, hstep, List.nil_append, List.count_cons_of_ne hc]
        exact ih _ hmem

theorem modeAfter_lineComment (offset : Nat) {cs : List Char} (h : '\n' ∉ cs) :
    modeAfter .lineComment offset cs = .lineComment := by
  induction cs generalizing offset with
  | nil => rfl
  | cons c cs ih =>
      have hc : c ≠ '\n' := Ne.symm (List.ne_of_not_mem_cons h)
      rw [modeAfter, Mode.step, if_neg hc]
      exact ih _ (List.not_mem_of_not_mem_cons h)

theorem completed_lineComment (offset : Nat) {cs : List Char} (h : '\n' ∉ cs) :
    completed .lineComment offset cs = [] := by
  induction cs generalizing offset with
  | nil => rfl
  | cons c cs ih =>
      have hc : c ≠ '\n' := Ne.symm (List.ne_of_not_mem_cons h)
      rw [completed, Mode.step, if_neg hc]
      exact ih _ (List.not_mem_of_not_mem_cons h)

/-- A line comment without an end holds no tokens. -/
theorem tokensFrom_lineComment (offset : Nat) {cs : List Char} (h : '\n' ∉ cs) :
    tokensFrom .lineComment offset cs = [] := by
  rw [tokensFrom, completed_lineComment offset h, modeAfter_lineComment offset h]
  rfl

end Sql

end ScrollCursor
