import Mathlib.Data.List.TakeWhile
import ScrollCursor.Proofs.Sql.Pieces

/-! # Enclosed text

What stands in a literal, in a comment or in backticks is not read as part of the statement
around it. A statement tells the same whatever the enclosed text says: it is of the same kind, has
the same placeholders and ends in the same positioned clause. A name in backticks is a token, so
this needs a word on both sides of it, which then says what the statement is and what it ends in.
-/

namespace ScrollCursor

namespace Sql

/-! ## What the tokens of a statement tell -/

/-- What a statement tells apart from its text and the place of its clause. -/
structure Reading where
  kind : StatementKind
  placeholders : Nat
  /-- The name in the positioned clause, if there is one. -/
  cursor : Option String

def StatementText.reading (s : StatementText) : Reading :=
  ⟨s.kind, s.placeholders, s.positioned.map PositionedClause.cursor⟩

namespace Spelling

/-- A token that is spelled so is a quoted name or a word. -/
def isWord (s : String × Bool) : Bool :=
  s.2 || (s.1.toList.head?.map isWordChar).getD false

def isKeyword (keyword : String) (s : String × Bool) : Bool :=
  !s.2 && Text.sameName s.1 keyword

def isSemicolon (s : String × Bool) : Bool :=
  !s.2 && s.1 == ";"

/-- The kind of a statement whose tokens are spelled so. -/
def kind (ss : List (String × Bool)) : StatementKind :=
  match ss.find? isWord with
  | some s => .ofWord s.1
  | none => .unknown

/-- The name in the clause at the end of some tokens, which are given in reverse order. -/
def cursor? : List (String × Bool) → Option String
  | name :: of :: current :: whereWord :: _ =>
      if isKeyword "WHERE" whereWord && isKeyword "CURRENT" current && isKeyword "OF" of &&
          isWord name then
        some name.1
      else none
  | _ => none

theorem kind_map (ts : List Token) :
    kind (ts.map Token.spelling) = StatementKind.ofTokens ts := by
  rw [kind, List.find?_map, StatementKind.ofTokens]
  change (match (ts.find? Token.isWord).map Token.spelling with | some s => _ | none => _) = _
  cases ts.find? Token.isWord <;> rfl

theorem cursor?_map (ts : List Token) :
    cursor? (ts.map Token.spelling) =
      (PositionedClause.ofReversed? ts).map PositionedClause.cursor := by
  match ts with
  | [] | [_] | [_, _] | [_, _, _] => rfl
  | name :: of :: current :: whereToken :: rest =>
      simp only [List.map_cons, cursor?, PositionedClause.ofReversed?]
      change (if whereToken.isKeyword "WHERE" && current.isKeyword "CURRENT" &&
        of.isKeyword "OF" && name.isWord then some name.text else none) = _
      split <;> rfl

theorem isSemicolon_of_isWord {s : String × Bool} (h : isWord s = true) :
    isSemicolon s = false := by
  by_contra hsemicolon
  simp only [isSemicolon, Bool.not_eq_false, Bool.and_eq_true, Bool.not_eq_true', beq_iff_eq]
    at hsemicolon
  obtain ⟨hquoted, htext⟩ := hsemicolon
  rw [isWord, hquoted, htext] at h
  exact absurd h (by decide)

/-- A quoted name is no part of a clause but its last word. -/
theorem cursor?_append_quoted {front back : List (String × Bool)} {s t : String × Bool}
    (hfront : front ≠ []) (hs : s.2 = true) (ht : t.2 = true) :
    cursor? (front ++ s :: back) = cursor? (front ++ t :: back) := by
  match front with
  | [] => exact absurd rfl hfront
  -- It would have to be one of the three keywords.
  | [_] | [_, _] | [_, _, _] =>
      rcases back with _ | ⟨b, _ | ⟨c, back⟩⟩ <;> simp [cursor?, isKeyword, hs, ht]
  | _ :: _ :: _ :: _ :: _ => rfl

/-- What some tokens tell at their end, semicolons after it being ignored. -/
def lastCursor? (ss : List (String × Bool)) : Option String :=
  cursor? (ss.reverse.dropWhile isSemicolon)

theorem lastCursor?_map (ts : List Token) :
    lastCursor? (ts.map Token.spelling) =
      (PositionedClause.ofTokens? ts).map PositionedClause.cursor := by
  rw [lastCursor?, ← List.map_reverse, List.dropWhile_map]
  exact cursor?_map _

/-- Between two words a quoted name may be any other. -/
theorem kind_between {before after : List (String × Bool)} {s t : String × Bool}
    (hbefore : ∃ w ∈ before, isWord w = true) :
    kind (before ++ s :: after) = kind (before ++ t :: after) := by
  obtain ⟨w, hw⟩ := Option.isSome_iff_exists.mp (List.find?_isSome.mpr hbefore)
  simp only [kind, List.find?_append, hw, Option.some_or]

theorem lastCursor?_between {before after : List (String × Bool)} {s t : String × Bool}
    (hafter : ∃ w ∈ after, isWord w = true) (hs : s.2 = true) (ht : t.2 = true) :
    lastCursor? (before ++ s :: after) = lastCursor? (before ++ t :: after) := by
  -- The word after the name is no semicolon, so the clause ends behind the name.
  have hfront : after.reverse.dropWhile isSemicolon ≠ [] := by
    intro hnil
    obtain ⟨w, hmem, hword⟩ := hafter
    have hall := List.dropWhile_eq_nil_iff.mp hnil w (List.mem_reverse.mpr hmem)
    rw [isSemicolon_of_isWord hword] at hall
    cases hall
  have hsplit (u : String × Bool) : lastCursor? (before ++ u :: after) =
      cursor? (after.reverse.dropWhile isSemicolon ++ u :: before.reverse) := by
    simp [lastCursor?, List.dropWhile_append, List.isEmpty_iff, hfront]
  rw [hsplit, hsplit]
  exact cursor?_append_quoted hfront hs ht

end Spelling

/-- What a statement tells whose tokens are spelled so. -/
def Spelling.reading (ss : List (String × Bool)) (placeholders : Nat) : Reading :=
  ⟨kind ss, placeholders, if kind ss = .dml then lastCursor? ss else none⟩

theorem StatementText.reading_parse (sql : String) :
    (StatementText.parse sql).reading =
      Spelling.reading ((tokens sql).map Token.spelling) (Sql.placeholders sql) := by
  rw [Spelling.reading, Spelling.kind_map, Spelling.lastCursor?_map]
  simp only [reading, parse]
  split <;> rfl

/-! ## Enclosures -/

/-- A way to enclose text in a statement. -/
inductive Enclosure where
  | singleQuotes
  | doubleQuotes
  | comment
  | backticks
  deriving DecidableEq

namespace Enclosure

def opening : Enclosure → String
  | singleQuotes => "'"
  | doubleQuotes => "\""
  | comment => "/*"
  | backticks => "\x60"

def closing : Enclosure → String
  | singleQuotes => "'"
  | doubleQuotes => "\""
  | comment => "*/"
  | backticks => "\x60"

/-- The text does not end or escape the enclosure. -/
def Encloses (e : Enclosure) (body : String) : Prop :=
  match e with
  | singleQuotes => '\'' ∉ body.toList ∧ '\\' ∉ body.toList
  | doubleQuotes => '"' ∉ body.toList ∧ '\\' ∉ body.toList
  | comment => ¬ ['*', '/'] <:+: body.toList
  | backticks => '\x60' ∉ body.toList

/-- A name in backticks is to stand between words, and no further backtick is to stand beside
it. -/
def Fits (e : Enclosure) (before after : String) : Prop :=
  e = backticks →
    before.toList.getLast? ≠ some '\x60' ∧ after.toList.head? ≠ some '\x60' ∧
      (∃ t ∈ tokens before, t.isWord = true) ∧ ∃ t ∈ tokens after, t.isWord = true

/-- The statement with some text enclosed in it. -/
def around (e : Enclosure) (before body after : String) : String :=
  before ++ e.opening ++ body ++ e.closing ++ after

/-- The tokens that the enclosed text is. -/
def spelling (e : Enclosure) (body : String) : List (String × Bool) :=
  match e with
  | backticks => [(body, true)]
  | _ => []

end Enclosure

/-! ## Reading past enclosed text -/

/-- The characters take the scanner from one mode to another, complete the tokens and have no
placeholder, wherever they stand. -/
def Scans (mode : Mode) (cs : List Char) (mode' : Mode) (ts : List Token) : Prop :=
  ∀ offset, modeAfter mode offset cs = mode' ∧ completed mode offset cs = ts ∧
    openMarks mode offset cs = 0

namespace Scans

variable {mode mode' mode'' : Mode} {cs ds : List Char} {ts us : List Token}

theorem append (hcs : Scans mode cs mode' ts) (hds : Scans mode' ds mode'' us) :
    Scans mode (cs ++ ds) mode'' (ts ++ us) := by
  intro offset
  obtain ⟨hmode, htokens, hmarks⟩ := hcs offset
  obtain ⟨hmode', htokens', hmarks'⟩ := hds (offset + byteSize cs)
  rw [modeAfter_append, completed_append, openMarks_append, hmode, htokens, hmarks, htokens',
    hmarks']
  exact ⟨hmode', rfl, rfl⟩

/-- One more character in a literal, a name or a comment. -/
theorem cons {c : Char} (hclosed : mode.isOpen = false)
    (hstep : ∀ offset, mode.step offset c = (mode', [])) (hcs : Scans mode' cs mode'' ts) :
    Scans mode (c :: cs) mode'' ts := by
  intro offset
  obtain ⟨hmode, htokens, hmarks⟩ := hcs (offset + c.utf8Size)
  rw [modeAfter, completed, openMarks, hstep, hclosed]
  exact ⟨hmode, htokens, by simpa using hmarks⟩

/-- A quote outside of everything begins a literal. -/
theorem quote {quote : Char} (hquote : quote = '\'' ∨ quote = '"') (hopen : mode.isOpen = true) :
    Scans mode [quote] (.literal quote) mode.finish := by
  intro offset
  have hbreak : isBreak quote = true := by rcases hquote with rfl | rfl <;> decide
  have hmark : (quote == '?') = false := by rcases hquote with rfl | rfl <;> rfl
  have hplain : Mode.ofPlain offset quote = (.literal quote, []) := if_pos hquote
  have hstep := step_break offset hopen hbreak
  rw [hplain, List.append_nil] at hstep
  simp [modeAfter, completed, openMarks, hstep, hmark]

/-- A literal without its quote and without backslashes inside is read as nothing. -/
theorem literal {quote : Char} (hquote : quote = '\'' ∨ quote = '"') (hopen : mode.isOpen = true)
    (hcs : quote ∉ cs) (hescape : '\\' ∉ cs) :
    Scans mode (quote :: (cs ++ [quote])) .plain mode.finish := by
  have hbody : StandIn (.literal quote) cs := by
    refine .of_forall fun c hc => ⟨?_, ?_⟩
    · rintro rfl
      exact hcs hc
    · rintro rfl
      exact hescape hc
  have hend : Scans (.literal quote) [quote] .plain [] := by
    intro offset
    simp [modeAfter, completed, openMarks, Mode.step, Mode.isOpen]
  have hrest : Scans (.literal quote) (cs ++ [quote]) .plain ([] ++ []) := append hbody hend
  simpa using (Scans.quote hquote hopen).append hrest

theorem openComment (hopen : mode.isOpen = true) :
    Scans mode ['/', '*'] .blockComment mode.finish := by
  intro offset
  have hstep := step_break (c := '/') offset hopen (by decide)
  have hplain : Mode.ofPlain offset '/' = (.slash offset, []) := rfl
  have hstar (at_ : Nat) : (Mode.slash offset).step at_ '*' = (.blockComment, []) := rfl
  rw [hplain, List.append_nil] at hstep
  simp [modeAfter, completed, openMarks, hstep, hstar]

/-- A comment goes on to the first place where it is closed. -/
theorem closeComment (cs : List Char) :
    (¬ ['*', '/'] <:+: cs → Scans .blockComment (cs ++ ['*', '/']) .plain []) ∧
      (¬ ['*', '/'] <:+: '*' :: cs → Scans .blockStar (cs ++ ['*', '/']) .plain []) := by
  induction cs with
  | nil => exact ⟨fun _ _ => ⟨rfl, rfl, rfl⟩, fun _ _ => ⟨rfl, rfl, rfl⟩⟩
  | cons c cs ih =>
      constructor
      · intro hinside
        by_cases hstar : c = '*'
        · subst hstar
          exact cons rfl (fun _ => rfl) (ih.2 hinside)
        · refine cons rfl (fun _ => if_neg hstar) (ih.1 fun h => hinside ?_)
          exact h.trans (List.suffix_cons c cs).isInfix
      · intro hinside
        have hslash : c ≠ '/' := by
          rintro rfl
          exact hinside ⟨[], cs, rfl⟩
        by_cases hstar : c = '*'
        · subst hstar
          refine cons rfl (fun _ => rfl) (ih.2 fun h => hinside ?_)
          exact h.trans (List.suffix_cons _ _).isInfix
        · refine cons rfl (fun _ => ?_) (ih.1 fun h => hinside ?_)
          · rw [Mode.step, if_neg hslash, if_neg hstar]
          · exact h.trans ⟨['*', c], [], by simp⟩

theorem comment (hopen : mode.isOpen = true) (hcs : ¬ ['*', '/'] <:+: cs) :
    Scans mode ('/' :: '*' :: (cs ++ ['*', '/'])) .plain mode.finish := by
  simpa using (openComment hopen).append ((closeComment cs).1 hcs)

end Scans

/-- Some characters and what follows them are read from a mode as the tokens spelled so and then
what follows alone. -/
structure ReadsPast (mode : Mode) (offset : Nat) (cs ds : List Char)
    (ss : List (String × Bool)) : Prop where
  tokens : (tokensFrom mode offset (cs ++ ds)).map Token.spelling =
    mode.finish.map Token.spelling ++ (ss ++ (tokensOf 0 ds).map Token.spelling)
  marks : openMarks mode offset (cs ++ ds) = openMarks .plain 0 ds

theorem Scans.readsPast {mode : Mode} {cs : List Char} (h : Scans mode cs .plain mode.finish)
    (offset : Nat) (ds : List Char) : ReadsPast mode offset cs ds [] := by
  obtain ⟨hmode, htokens, hmarks⟩ := h offset
  constructor
  · rw [tokensFrom_append, hmode, htokens, List.map_append]
    exact congrArg _ (spelling_tokensOf _ ds)
  · rw [openMarks_append, hmode, hmarks, Nat.zero_add, openMarks_plain]

namespace Mode

theorem fst_ofPlain_ne_nameQuote (offset start : Nat) (c : Char) (chars : List Char) :
    (ofPlain offset c).1 ≠ .nameQuote start chars := by
  unfold ofPlain
  repeat' split
  all_goals exact Mode.noConfusion

theorem eq_backtick_of_step {offset start : Nat} {mode : Mode} {c : Char} {chars : List Char}
    (h : (mode.step offset c).1 = .nameQuote start chars) : c = '\x60' := by
  have hplain := fst_ofPlain_ne_nameQuote offset start c chars
  cases mode with
  | name =>
      rw [step] at h
      split at h
      · assumption
      · cases h
  | plain => exact absurd h hplain
  | word | nameQuote | hyphen | slash =>
      rw [step] at h
      split at h
      · cases h
      · exact absurd h hplain
  | lineComment | blockComment =>
      rw [step] at h
      split at h <;> cases h
  | literal | blockStar =>
      rw [step] at h
      split at h
      · cases h
      · split at h <;> cases h
  | literalEscape => cases h

end Mode

/-- After a text that ends in no backtick no quoted name waits for its second one. -/
theorem modeAfter_ne_nameQuote {cs : List Char} (h : cs.getLast? ≠ some '\x60')
    (start : Nat) (chars : List Char) : modeAfter .plain 0 cs ≠ .nameQuote start chars := by
  rcases List.eq_nil_or_concat cs with rfl | ⟨init, c, rfl⟩
  · exact Mode.noConfusion
  · rw [List.concat_eq_append] at h ⊢
    intro hmode
    rw [modeAfter_append] at hmode
    apply h
    rw [List.getLast?_concat, Mode.eq_backtick_of_step hmode]

/-- A backtick begins a name where none waits for a second one. -/
theorem step_backtick_of_not_nameQuote {mode : Mode} (offset : Nat) (hopen : mode.isOpen = true)
    (hname : ∀ start chars, mode ≠ .nameQuote start chars) :
    mode.step offset '\x60' = (.name offset [], mode.finish) := by
  have hplain : Mode.ofPlain offset '\x60' = (.name offset [], []) := rfl
  have hword : isWordChar '\x60' = false := by decide
  cases mode with
  | plain => exact hplain
  | word | hyphen | slash => simp [Mode.step, hword, hplain]
  | nameQuote start chars => exact absurd rfl (hname start chars)
  | name | literal | literalEscape | lineComment | blockComment | blockStar => cases hopen

theorem doubled_eq_self {q : Char} {cs : List Char} (h : q ∉ cs) : Text.doubled q cs = cs := by
  induction cs with
  | nil => rfl
  | cons c cs ih =>
      have hc : c ≠ q := Ne.symm (List.ne_of_not_mem_cons h)
      rw [Text.doubled, List.flatMap_cons, ← Text.doubled, if_neg hc,
        ih (List.not_mem_of_not_mem_cons h)]
      rfl

/-- A name is complete before a text that begins with no backtick. -/
theorem readsPast_nameQuote (start offset : Nat) (chars : List Char) {ds : List Char}
    (hds : ds.head? ≠ some '\x60') : ReadsPast (.nameQuote start chars) offset [] ds [] := by
  cases ds with
  | nil => exact ⟨rfl, rfl⟩
  | cons d ds =>
      have hd : d ≠ '\x60' := fun h => hds (congrArg some h)
      have hstep : (Mode.nameQuote start chars).step offset d =
          ((Mode.ofPlain offset d).1,
            (Mode.nameQuote start chars).finish ++ (Mode.ofPlain offset d).2) := by
        rw [Mode.step, if_neg hd]
      have hplain : Mode.plain.step offset d = Mode.ofPlain offset d := rfl
      constructor
      · rw [← spelling_tokensOf offset (d :: ds)]
        change (tokensFrom _ offset (d :: ds)).map _ =
          _ ++ ([] ++ (tokensFrom .plain offset (d :: ds)).map _)
        rw [tokensFrom_cons, tokensFrom_cons, hstep, hplain]
        simp [List.map_append]
      · rw [← openMarks_plain offset (d :: ds)]
        change openMarks _ offset (d :: ds) = _
        rw [openMarks, openMarks, hstep, hplain]
        rfl

theorem readsPast_backticks {mode : Mode} (offset : Nat) {cs ds : List Char}
    (hopen : mode.isOpen = true) (hname : ∀ start chars, mode ≠ .nameQuote start chars)
    (hcs : '\x60' ∉ cs) (hds : ds.head? ≠ some '\x60') :
    ReadsPast mode offset ('\x60' :: (cs ++ ['\x60'])) ds [(String.ofList cs, true)] := by
  have hstep := step_backtick_of_not_nameQuote offset hopen hname
  have hmode := (modeAfter_doubled offset [] (offset + 1) cs).1
  obtain ⟨hcompleted, hmarks⟩ := scan_doubled offset [] (offset + 1) cs
  rw [doubled_eq_self hcs] at hmode hcompleted hmarks
  have hrest := readsPast_nameQuote offset (offset + 1 + byteSize cs + 1) cs hds
  have hsize : offset + '\x60'.utf8Size = offset + 1 := rfl
  constructor
  · rw [List.cons_append, tokensFrom_cons, hstep, hsize, List.append_assoc, tokensFrom_append,
      hcompleted, hmode, List.map_append]
    exact congrArg _ hrest.tokens
  · have hmark : ('\x60' == '?') = false := rfl
    rw [List.cons_append, openMarks, hstep, hsize, hmark, Bool.and_false, List.append_assoc,
      openMarks_append, hmarks, hmode, ← hrest.marks]
    exact (Nat.zero_add _).trans ((Nat.zero_add _).trans (Nat.zero_add _))

/-! ## Statements with enclosed text -/

namespace Enclosure

/-- Enclosed text is passed by, or is the name that it spells. -/
theorem readsPast (e : Enclosure) {before body after : String}
    (hopen : (modeAfter .plain 0 before.toList).isOpen = true) (hfits : e.Fits before after)
    (hbody : e.Encloses body) (offset : Nat) :
    ReadsPast (modeAfter .plain 0 before.toList) offset
      (e.opening.toList ++ (body.toList ++ e.closing.toList)) after.toList (e.spelling body) := by
  cases e with
  | singleQuotes => exact (Scans.literal (.inl rfl) hopen hbody.1 hbody.2).readsPast offset _
  | doubleQuotes => exact (Scans.literal (.inr rfl) hopen hbody.1 hbody.2).readsPast offset _
  | comment => exact (Scans.comment hopen hbody).readsPast offset _
  | backticks =>
      obtain ⟨hbefore, hafter, -⟩ := hfits rfl
      have hpast := readsPast_backticks offset hopen (modeAfter_ne_nameQuote hbefore) hbody hafter
      rwa [String.ofList_toList] at hpast

theorem toList_around (e : Enclosure) (before body after : String) :
    (e.around before body after).toList =
      before.toList ++ (e.opening.toList ++ (body.toList ++ e.closing.toList) ++ after.toList) := by
  simp [around]

theorem spelling_tokens_around (e : Enclosure) {before body after : String}
    (hopen : (modeAfter .plain 0 before.toList).isOpen = true) (hfits : e.Fits before after)
    (hbody : e.Encloses body) :
    (tokens (e.around before body after)).map Token.spelling =
      (tokens before).map Token.spelling ++
        (e.spelling body ++ (tokens after).map Token.spelling) := by
  have hpast := (e.readsPast hopen hfits hbody (0 + byteSize before.toList)).tokens
  rw [tokens, toList_around]
  change (tokensFrom .plain 0 _).map _ = _
  rw [tokensFrom_append, List.map_append, hpast, ← List.append_assoc, ← List.map_append]
  rfl

theorem placeholders_around (e : Enclosure) {before body after : String}
    (hopen : (modeAfter .plain 0 before.toList).isOpen = true) (hfits : e.Fits before after)
    (hbody : e.Encloses body) :
    placeholders (e.around before body after) = placeholders before + placeholders after := by
  have hpast := (e.readsPast hopen hfits hbody (0 + byteSize before.toList)).marks
  rw [placeholders, toList_around, openMarks_append, hpast]
  rfl

/-- A statement tells the same whatever the text says that is enclosed in it. -/
theorem reading_around (e : Enclosure) {before after body body' : String}
    (hopen : (modeAfter .plain 0 before.toList).isOpen = true) (hfits : e.Fits before after)
    (hbody : e.Encloses body) (hbody' : e.Encloses body') :
    (StatementText.parse (e.around before body after)).reading =
      (StatementText.parse (e.around before body' after)).reading := by
  rw [StatementText.reading_parse, StatementText.reading_parse,
    e.placeholders_around hopen hfits hbody, e.placeholders_around hopen hfits hbody',
    e.spelling_tokens_around hopen hfits hbody, e.spelling_tokens_around hopen hfits hbody']
  cases e with
  | singleQuotes | doubleQuotes | comment => rfl
  | backticks =>
      obtain ⟨-, -, ⟨t, ht, hword⟩, u, hu, hword'⟩ := hfits rfl
      have hkind : Spelling.kind ((tokens before).map Token.spelling ++
            (body, true) :: (tokens after).map Token.spelling) =
          Spelling.kind ((tokens before).map Token.spelling ++
            (body', true) :: (tokens after).map Token.spelling) :=
        Spelling.kind_between ⟨t.spelling, List.mem_map_of_mem ht, hword⟩
      have hcursor : Spelling.lastCursor? ((tokens before).map Token.spelling ++
            (body, true) :: (tokens after).map Token.spelling) =
          Spelling.lastCursor? ((tokens before).map Token.spelling ++
            (body', true) :: (tokens after).map Token.spelling) :=
        Spelling.lastCursor?_between ⟨u.spelling, List.mem_map_of_mem hu, hword'⟩ rfl rfl
      rw [spelling, spelling, List.singleton_append, List.singleton_append, Spelling.reading, hkind,
        hcursor]
      rfl

/-- A table whose name holds a quote, a placeholder and the beginning of a comment. -/
theorem reading_around_table :
    (StatementText.parse
        (backticks.around "UPDATE " "t" " SET a = ? WHERE CURRENT OF c")).reading =
      (StatementText.parse
        (backticks.around "UPDATE " "it's ? --" " SET a = ? WHERE CURRENT OF c")).reading := by
  have hfits : backticks.Fits "UPDATE " " SET a = ? WHERE CURRENT OF c" := fun _ =>
    ⟨by decide, by decide, ⟨⟨"UPDATE", 0, false⟩, by decide +kernel, by decide +kernel⟩,
      ⟨⟨"SET", 1, false⟩, by decide +kernel, by decide +kernel⟩⟩
  have hbody : backticks.Encloses "t" := by
    change _ ∉ _
    decide
  have hbody' : backticks.Encloses "it's ? --" := by
    change _ ∉ _
    decide
  exact backticks.reading_around (by decide +kernel) hfits hbody hbody'

end Enclosure

end Sql

end ScrollCursor
