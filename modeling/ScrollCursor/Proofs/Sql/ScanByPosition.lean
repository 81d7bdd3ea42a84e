import ScrollCursor.Proofs.Sql.Lexemes
import ScrollCursor.Proofs.Sql.Words

/-! # Scanning by position

The scan of a statement as a loop over the positions of its characters. Where a literal, a quoted
name, a comment or a word begins, an inner loop looks for its end, steps over one or two characters
at a time and may come out behind the end of the text. Every read is checked, and one past the end
fails the scan. Every loop is given a number of turns, and one that needs more fails the scan too.

Given more turns than the text has characters the scan does not fail: it finds what the scanner
finds that reads one character after the other. Each of its turns passes one lexeme.
-/

namespace ScrollCursor

namespace Sql

namespace ByPosition

/-! ## The loops -/

/-- Whether the character stands at a position, which may lie behind the end of the text. -/
def standsAt (text : List Char) (i : Nat) (c : Char) : Option Bool :=
  if i < text.length then (text[i]?).map (· == c) else some false

/-- Whether two characters stand at a position and the next one. -/
def pairAt (text : List Char) (i : Nat) (c d : Char) : Option Bool := do
  let first ← text[i]?
  if first = c then standsAt text (i + 1) d else return false

/-- The position behind a literal that is read on from a position. -/
def literalEnd (text : List Char) (quote : Char) : Nat → Nat → Option Nat
  | 0, _ => none
  | turns + 1, i =>
      if i < text.length then do
        let c ← text[i]?
        if c = quote then return i + 1
        else if c = '\\' then literalEnd text quote turns (i + 2)
        else literalEnd text quote turns (i + 1)
      else return i + 1

/-- The position behind a quoted name that is read on from a position, and the name. -/
def nameEnd (text : List Char) : Nat → Nat → List Char → Option (Nat × List Char)
  | 0, _, _ => none
  | turns + 1, i, chars =>
      if i < text.length then do
        let c ← text[i]?
        if c = '\x60' then
          let doubled ← standsAt text (i + 1) '\x60'
          if doubled then nameEnd text turns (i + 2) (chars ++ [c]) else return (i + 1, chars)
        else nameEnd text turns (i + 1) (chars ++ [c])
      else return (i + 1, chars)

/-- The position of the line feed that ends a line comment. -/
def lineEnd (text : List Char) : Nat → Nat → Option Nat
  | 0, _ => none
  | turns + 1, i =>
      if i < text.length then do
        let c ← text[i]?
        if c = '\n' then return i else lineEnd text turns (i + 1)
      else return i

/-- The position behind a block comment that is read on from a position. -/
def blockEnd (text : List Char) : Nat → Nat → Option Nat
  | 0, _ => none
  | turns + 1, i =>
      if i < text.length then do
        let closed ← pairAt text i '*' '/'
        if closed then return i + 2 else blockEnd text turns (i + 1)
      else return i + 2

/-- The position behind a word that is read on from a position, and the word. -/
def wordEnd (text : List Char) : Nat → Nat → List Char → Option (Nat × List Char)
  | 0, _, _ => none
  | turns + 1, i, chars =>
      if i < text.length then do
        let c ← text[i]?
        if isWordChar c then wordEnd text turns (i + 1) (chars ++ [c]) else return (i, chars)
      else return (i, chars)

/-- The byte offset of a position. -/
def offsetAt (text : List Char) (i : Nat) : Nat :=
  byteSize (text.take i)

/-- What one turn of the scan leaves. -/
structure Turn where
  /-- The position at which the next turn begins. -/
  next : Nat
  tokens : List Token
  /-- The number of placeholders. -/
  marks : Nat

/-- The turn that begins at a position. Each loop in it is given so many turns. -/
def turn (text : List Char) (turns i : Nat) : Option Turn := do
  let c ← text[i]?
  if c = '\'' ∨ c = '"' then
    let next ← literalEnd text c turns (i + 1)
    return ⟨next, [], 0⟩
  if c = '\x60' then
    let (next, chars) ← nameEnd text turns (i + 1) []
    return ⟨next, [Mode.nameToken (offsetAt text i) chars], 0⟩
  let hyphens ← pairAt text i '-' '-'
  if c = '#' ∨ hyphens = true then
    let next ← lineEnd text turns i
    return ⟨next, [], 0⟩
  let opened ← pairAt text i '/' '*'
  if opened then
    let next ← blockEnd text turns (i + 2)
    return ⟨next, [], 0⟩
  if Text.isBlank c then
    return ⟨i + 1, [], 0⟩
  if isWordChar c then
    let (next, chars) ← wordEnd text turns i []
    return ⟨next, [Mode.plainToken (offsetAt text i) chars], 0⟩
  return ⟨i + 1, [Mode.plainToken (offsetAt text i) [c]], if c = '?' then 1 else 0⟩

/-- The tokens and the number of placeholders from a position on. Each inner loop is given the
same number of turns. -/
def scanFrom (text : List Char) (inner : Nat) : Nat → Nat → Option (List Token × Nat)
  | 0, _ => none
  | turns + 1, i =>
      if i < text.length then do
        let t ← turn text inner i
        let (ts, marks) ← scanFrom text inner turns t.next
        return (t.tokens ++ ts, t.marks + marks)
      else return ([], 0)

/-- The tokens and the number of placeholders of a statement, if no loop needs more turns. -/
def scan (turns : Nat) (sql : String) : Option (List Token × Nat) :=
  scanFrom sql.toList turns turns 0

/-! ## Reads -/

variable {text : List Char} {i : Nat}

theorem read_of_lt (h : i < text.length) : ∃ c, text[i]? = some c :=
  ⟨text[i], List.getElem?_eq_getElem h⟩

theorem lt_of_read {c : Char} (h : text[i]? = some c) : i < text.length :=
  (List.getElem?_eq_some_iff.mp h).1

theorem drop_of_read {c : Char} (h : text[i]? = some c) :
    text.drop i = c :: text.drop (i + 1) := by
  obtain ⟨hi, rfl⟩ := List.getElem?_eq_some_iff.mp h
  exact List.drop_eq_getElem_cons hi

theorem offsetAt_succ {c : Char} (h : text[i]? = some c) :
    offsetAt text (i + 1) = offsetAt text i + c.utf8Size := by
  rw [offsetAt, List.take_add_one, h, byteSize_append]
  rfl

theorem standsAt_eq (text : List Char) (i : Nat) (c : Char) :
    standsAt text i c = some (decide (text[i]? = some c)) := by
  rw [standsAt]
  split
  next hi =>
    obtain ⟨d, hd⟩ := read_of_lt hi
    rw [hd, Option.map_some, Option.some_inj, Bool.beq_eq_decide_eq]
    simp only [Option.some_inj]
  next hi =>
    rw [List.getElem?_eq_none (Nat.le_of_not_lt hi)]
    rfl

/-- Two characters are found where the first and the second stand. -/
theorem pairAt_eq {first : Char} (h : text[i]? = some first) (c d : Char) :
    pairAt text i c d = some (decide (first = c ∧ text[i + 1]? = some d)) := by
  simp only [pairAt, h, Option.bind_eq_bind, Option.bind_some]
  split
  next hc => simp only [standsAt_eq, hc, true_and]
  next hc => simp [hc]

/-! ## Reading on -/

/-- What is read from a position in one mode is the tokens and so many placeholders, and then what
is read from another position in another mode. -/
structure Leads (text : List Char) (mode : Mode) (i : Nat) (mode' : Mode) (j : Nat)
    (ts : List Token) (marks : Nat) : Prop where
  tokens : tokensFrom mode (offsetAt text i) (text.drop i) =
    ts ++ tokensFrom mode' (offsetAt text j) (text.drop j)
  marks : openMarks mode (offsetAt text i) (text.drop i) =
    marks + openMarks mode' (offsetAt text j) (text.drop j)

namespace Leads

variable {mode mode' mode'' : Mode} {j k marks : Nat} {ts us : List Token} {c : Char}

/-- A part that is read leads on to the next part. -/
theorem trans (h : Leads text mode i mode' j ts 0) (h' : Leads text mode' j mode'' k us marks) :
    Leads text mode i mode'' k (ts ++ us) marks := by
  constructor
  · rw [h.tokens, h'.tokens, List.append_assoc]
  · rw [h.marks, h'.marks, Nat.zero_add]

/-- Where nothing is completed on the way, one place is as good as the other. -/
theorem symm (h : Leads text mode i mode' j [] 0) : Leads text mode' j mode i [] 0 := by
  constructor
  · rw [h.tokens]
    rfl
  · rw [h.marks, Nat.zero_add, Nat.zero_add]

/-- One character is read. -/
theorem read (h : text[i]? = some c)
    (hstep : mode.step (offsetAt text i) c = (mode', ts)) :
    Leads text mode i mode' (i + 1) ts (if mode.isOpen && c == '?' then 1 else 0) := by
  constructor
  · rw [drop_of_read h, tokensFrom_cons, hstep, offsetAt_succ h]
  · rw [drop_of_read h, openMarks, hstep, offsetAt_succ h]

/-- One character is read that is no placeholder. -/
theorem readUnmarked (h : text[i]? = some c) (hmark : (mode.isOpen && c == '?') = false)
    (hstep : mode.step (offsetAt text i) c = (mode', ts)) :
    Leads text mode i mode' (i + 1) ts 0 := by
  have hread := read h hstep
  rwa [hmark] at hread

/-- The end of the text is reached. -/
theorem atEnd (hi : text.length ≤ i) (hj : text.length ≤ j)
    (hfinish : mode.finish = ts ++ mode'.finish) : Leads text mode i mode' j ts 0 := by
  constructor
  · rw [List.drop_of_length_le hi, List.drop_of_length_le hj]
    exact hfinish
  · rw [List.drop_of_length_le hi, List.drop_of_length_le hj]
    rfl

/-- Two modes take the next character alike, apart from the tokens that the first one holds. -/
theorem alike (hfinish : mode.finish = ts ++ mode'.finish)
    (hopen : mode.isOpen = mode'.isOpen ∨ text[i]? ≠ some '?')
    (hstep : ∀ c, text[i]? = some c → ∀ offset,
      mode.step offset c = ((mode'.step offset c).1, ts ++ (mode'.step offset c).2)) :
    Leads text mode i mode' i ts 0 := by
  by_cases hi : i < text.length
  · obtain ⟨c, hc⟩ := read_of_lt hi
    have hsame : (mode.isOpen && c == '?') = (mode'.isOpen && c == '?') := by
      rcases hopen with h | h
      · rw [h]
      · have hmark : (c == '?') = false := beq_false_of_ne fun hmark => h (hmark ▸ hc)
        rw [hmark, Bool.and_false, Bool.and_false]
    constructor
    · rw [drop_of_read hc, tokensFrom_cons, tokensFrom_cons, hstep c hc, List.append_assoc]
    · rw [drop_of_read hc, openMarks, openMarks, hstep c hc, hsame, Nat.zero_add]
  · exact atEnd (Nat.le_of_not_lt hi) (Nat.le_of_not_lt hi) hfinish

/-- A token that is held back is complete where the next character does not continue it. -/
theorem flush (hopen : mode.isOpen = true)
    (hstep : ∀ c, text[i]? = some c → ∀ offset, mode.step offset c =
      ((Mode.ofPlain offset c).1, mode.finish ++ (Mode.ofPlain offset c).2)) :
    Leads text mode i .plain i mode.finish 0 :=
  alike (List.append_nil _).symm (.inl hopen) hstep

end Leads

/-! ## Where the loops end -/

/-- The character after a backslash is passed, or the text ends. -/
theorem leads_escape (text : List Char) (quote : Char) (i : Nat) :
    Leads text (.literalEscape quote) i (.literal quote) (i + 1) [] 0 := by
  by_cases hi : i < text.length
  · obtain ⟨c, hc⟩ := read_of_lt hi
    exact .readUnmarked hc rfl rfl
  · exact .atEnd (Nat.le_of_not_lt hi) (Nat.le_succ_of_le (Nat.le_of_not_lt hi)) rfl

section Loops

-- A loop ends because it is always given more turns than there are characters left: each turn
-- passes at least one, and a loop that has passed the end stops.
variable {turns : Nat}

/-- A literal ends after its closing quote, or at the end of the text. -/
theorem exists_literalEnd (quote : Char) (h : text.length - i < turns) :
    ∃ j, literalEnd text quote turns i = some j ∧ i < j ∧
      Leads text (.literal quote) i .plain j [] 0 := by
  induction turns generalizing i with
  | zero => exact absurd h (Nat.not_lt_zero _)
  | succ turns ih =>
      rw [literalEnd]
      by_cases hi : i < text.length
      · obtain ⟨c, hc⟩ := read_of_lt hi
        simp only [hi, hc, if_true, Option.bind_eq_bind, Option.bind_some]
        by_cases hquote : c = quote
        · exact ⟨i + 1, if_pos hquote, i.lt_succ_self, .readUnmarked hc rfl (if_pos hquote)⟩
        by_cases hescape : c = '\\'
        · obtain ⟨j, hj, hlt, hleads⟩ := @ih (i + 2) (by omega)
          have hread : Leads text (.literal quote) i (.literalEscape quote) (i + 1) [] 0 :=
            .readUnmarked hc rfl (by rw [Mode.step, if_neg hquote, if_pos hescape])
          refine ⟨j, ?_, by omega, hread.trans ((leads_escape text quote (i + 1)).trans hleads)⟩
          rw [if_neg hquote, if_pos hescape, hj]
        · obtain ⟨j, hj, hlt, hleads⟩ := @ih (i + 1) (by omega)
          have hread : Leads text (.literal quote) i (.literal quote) (i + 1) [] 0 :=
            .readUnmarked hc rfl (by rw [Mode.step, if_neg hquote, if_neg hescape])
          refine ⟨j, ?_, by omega, hread.trans hleads⟩
          rw [if_neg hquote, if_neg hescape, hj]
      · have hend := Nat.le_of_not_lt hi
        exact ⟨i + 1, if_neg hi, i.lt_succ_self, .atEnd hend (Nat.le_succ_of_le hend) rfl⟩

/-- A quoted name ends after its closing quote, or at the end of the text. -/
theorem exists_nameEnd (start : Nat) (chars : List Char) (h : text.length - i < turns) :
    ∃ j name, nameEnd text turns i chars = some (j, name) ∧ i < j ∧
      Leads text (.name start chars) i .plain j [Mode.nameToken start name] 0 := by
  induction turns generalizing i chars with
  | zero => exact absurd h (Nat.not_lt_zero _)
  | succ turns ih =>
      rw [nameEnd]
      by_cases hi : i < text.length
      · obtain ⟨c, hc⟩ := read_of_lt hi
        simp only [hi, hc, if_true, Option.bind_eq_bind, Option.bind_some, standsAt_eq]
        by_cases hquote : c = '\x60'
        · subst hquote
          have hread : Leads text (.name start chars) i (.nameQuote start chars) (i + 1) [] 0 :=
            .readUnmarked hc rfl rfl
          by_cases hdoubled : text[i + 1]? = some '\x60'
          · obtain ⟨j, name, hj, hlt, hleads⟩ := @ih (i + 2) (chars ++ ['\x60']) (by omega)
            have hnext : Leads text (.nameQuote start chars) (i + 1)
                (.name start (chars ++ ['\x60'])) (i + 2) [] 0 :=
              .readUnmarked hdoubled rfl rfl
            refine ⟨j, name, ?_, by omega, hread.trans (hnext.trans hleads)⟩
            simp only [hdoubled, decide_true, if_true, hj]
          · refine ⟨i + 1, chars, ?_, i.lt_succ_self,
              hread.trans (.flush rfl fun d hd offset => if_neg ?_)⟩
            · simp [hdoubled]
            · exact fun hd' => hdoubled (hd' ▸ hd)
        · obtain ⟨j, name, hj, hlt, hleads⟩ := @ih (i + 1) (chars ++ [c]) (by omega)
          have hread : Leads text (.name start chars) i (.name start (chars ++ [c])) (i + 1) [] 0 :=
            .readUnmarked hc rfl (if_neg hquote)
          refine ⟨j, name, ?_, by omega, hread.trans hleads⟩
          rw [if_neg hquote, hj]
      · have hend := Nat.le_of_not_lt hi
        exact ⟨i + 1, chars, if_neg hi, i.lt_succ_self, .atEnd hend (Nat.le_succ_of_le hend) rfl⟩

/-- A line comment ends before the line feed. -/
theorem exists_lineEnd (h : text.length - i < turns) :
    ∃ j, lineEnd text turns i = some j ∧ i ≤ j ∧ (∀ c, text[j]? = some c → c = '\n') ∧
      Leads text .lineComment i .plain j [] 0 := by
  induction turns generalizing i with
  | zero => exact absurd h (Nat.not_lt_zero _)
  | succ turns ih =>
      rw [lineEnd]
      by_cases hi : i < text.length
      · obtain ⟨c, hc⟩ := read_of_lt hi
        simp only [hi, hc, if_true, Option.bind_eq_bind, Option.bind_some]
        by_cases hfeed : c = '\n'
        · have hsame : ∀ d, text[i]? = some d → d = '\n' :=
            fun d hd => (Option.some.inj (hc.symm.trans hd)).symm.trans hfeed
          refine ⟨i, if_pos hfeed, Nat.le_refl i, hsame, .alike rfl (.inr ?_) fun d hd offset => ?_⟩
          · rw [hc, hfeed]
            decide
          · rw [hsame d hd]
            rfl
        · obtain ⟨j, hj, hle, hlast, hleads⟩ := @ih (i + 1) (by omega)
          have hread : Leads text .lineComment i .lineComment (i + 1) [] 0 :=
            .readUnmarked hc rfl (if_neg hfeed)
          refine ⟨j, ?_, by omega, hlast, hread.trans hleads⟩
          rw [if_neg hfeed, hj]
      · have hend := Nat.le_of_not_lt hi
        refine ⟨i, if_neg hi, Nat.le_refl i, fun c hc => ?_, .atEnd hend hend rfl⟩
        exact absurd (lt_of_read hc) hi

/-- An asterisk with no slash behind it means nothing in a block comment. -/
theorem leads_blockStar (h : text[i]? ≠ some '/') :
    Leads text .blockStar i .blockComment i [] 0 := by
  refine .alike rfl (.inl rfl) fun c hc offset => ?_
  have hslash : c ≠ '/' := fun hslash => h (hslash ▸ hc)
  exact if_neg hslash

/-- A block comment ends after its closing mark, or at the end of the text. -/
theorem exists_blockEnd (h : text.length - i < turns) :
    ∃ j, blockEnd text turns i = some j ∧ i < j ∧
      Leads text .blockComment i .plain j [] 0 := by
  induction turns generalizing i with
  | zero => exact absurd h (Nat.not_lt_zero _)
  | succ turns ih =>
      rw [blockEnd]
      by_cases hi : i < text.length
      · obtain ⟨c, hc⟩ := read_of_lt hi
        simp only [hi, if_true, pairAt_eq hc, Option.bind_eq_bind, Option.bind_some,
          decide_eq_true_eq]
        by_cases hclosed : c = '*' ∧ text[i + 1]? = some '/'
        · obtain ⟨rfl, hslash⟩ := hclosed
          have hstar : Leads text .blockComment i .blockStar (i + 1) [] 0 :=
            .readUnmarked hc rfl rfl
          have hplain : Leads text .blockStar (i + 1) .plain (i + 2) [] 0 :=
            .readUnmarked hslash rfl rfl
          exact ⟨i + 2, if_pos ⟨rfl, hslash⟩, by omega, hstar.trans hplain⟩
        · obtain ⟨j, hj, hlt, hleads⟩ := @ih (i + 1) (by omega)
          refine ⟨j, by rw [if_neg hclosed, hj], by omega, ?_⟩
          by_cases hstar : c = '*'
          · have hread : Leads text .blockComment i .blockStar (i + 1) [] 0 :=
              .readUnmarked hc rfl (if_pos hstar)
            have hback := leads_blockStar fun hslash => hclosed ⟨hstar, hslash⟩
            exact hread.trans (hback.trans hleads)
          · have hread : Leads text .blockComment i .blockComment (i + 1) [] 0 :=
              .readUnmarked hc rfl (if_neg hstar)
            exact hread.trans hleads
      · have hend := Nat.le_of_not_lt hi
        exact ⟨i + 2, if_neg hi, by omega, .atEnd hend (by omega) rfl⟩

/-- One more character of a word. -/
theorem leads_word {c : Char} (start : Nat) (chars : List Char) (hc : text[i]? = some c)
    (hword : isWordChar c = true) :
    Leads text (.word start chars) i (.word start (chars ++ [c])) (i + 1) [] 0 := by
  have hmark : c ≠ '?' := by
    rintro rfl
    exact absurd hword (by decide)
  exact .readUnmarked hc (by rw [beq_false_of_ne hmark, Bool.and_false]) (if_pos hword)

/-- A word ends before the first character that cannot go on one. -/
theorem exists_wordEnd (start : Nat) (chars : List Char) (h : text.length - i < turns) :
    ∃ j more, wordEnd text turns i chars = some (j, chars ++ more) ∧ i ≤ j ∧
      (∀ c, text[j]? = some c → isWordChar c = false) ∧ text.drop i = more ++ text.drop j ∧
      Leads text (.word start chars) i .plain j [Mode.plainToken start (chars ++ more)] 0 := by
  induction turns generalizing i chars with
  | zero => exact absurd h (Nat.not_lt_zero _)
  | succ turns ih =>
      rw [wordEnd]
      by_cases hi : i < text.length
      · obtain ⟨c, hc⟩ := read_of_lt hi
        simp only [hi, hc, if_true, Option.bind_eq_bind, Option.bind_some]
        by_cases hword : isWordChar c = true
        · obtain ⟨j, more, hj, hle, hlast, hdrop, hleads⟩ := @ih (i + 1) (chars ++ [c]) (by omega)
          rw [List.append_assoc] at hj hleads
          have hread := leads_word start chars hc hword
          refine ⟨j, c :: more, ?_, by omega, hlast, ?_, hread.trans hleads⟩
          · rw [if_pos hword, hj]
            rfl
          · rw [drop_of_read hc, hdrop]
            rfl
        · have hsame : ∀ d, text[i]? = some d → ¬ isWordChar d = true :=
            fun d hd => Option.some.inj (hc.symm.trans hd) ▸ hword
          refine ⟨i, [], ?_, Nat.le_refl i, fun d hd => eq_false_of_ne_true (hsame d hd), rfl, ?_⟩
          · rw [if_neg hword, List.append_nil]
            rfl
          · rw [List.append_nil]
            exact .flush rfl fun d hd offset => if_neg (hsame d hd)
      · have hend := Nat.le_of_not_lt hi
        refine ⟨i, [], ?_, Nat.le_refl i, fun c hc => absurd (lt_of_read hc) hi, rfl, ?_⟩
        · rw [if_neg hi, List.append_nil]
          rfl
        · rw [List.append_nil]
          exact .atEnd hend hend rfl

end Loops

/-! ## One turn -/

theorem isSymbol_plainToken (start : Nat) (chars : List Char) :
    (Mode.plainToken start chars).isSymbol "?" = decide (chars = ['?']) := by
  have htext : String.ofList chars = "?" ↔ chars = ['?'] := @String.ofList_inj chars ['?']
  simp only [Token.isSymbol, Mode.plainToken, Bool.not_false, Bool.true_and,
    Bool.beq_eq_decide_eq, htext]

/-- What a turn at a position passes: one lexeme, with the tokens and placeholders that are read
from it. -/
structure Turn.Passes (t : Turn) (text : List Char) (i : Nat) : Prop where
  lt : i < t.next
  leads : Leads text .plain i .plain t.next t.tokens t.marks
  lexeme : t.tokens = [] ∨ ∃ u, t.tokens = [u] ∧ u.start = offsetAt text i ∧
    (u.quoted = false → text.drop i = u.text.toList ++ text.drop t.next)
  marks_eq : t.marks = t.tokens.countP (Token.isSymbol · "?")

namespace Turn.Passes

/-- A lexeme that is no token. -/
theorem skip {j : Nat} (hlt : i < j) (hleads : Leads text .plain i .plain j [] 0) :
    Passes ⟨j, [], 0⟩ text i :=
  ⟨hlt, hleads, .inl rfl, rfl⟩

/-- A quoted name is passed as one token. -/
theorem name {j : Nat} {chars : List Char} (hlt : i < j)
    (hleads : Leads text .plain i .plain j [Mode.nameToken (offsetAt text i) chars] 0) :
    Passes ⟨j, [Mode.nameToken (offsetAt text i) chars], 0⟩ text i :=
  ⟨hlt, hleads, .inr ⟨_, rfl, rfl, Bool.noConfusion⟩, rfl⟩

/-- A word or a mark is passed as one token, a question mark as a placeholder. -/
theorem plain {j marks : Nat} {chars : List Char} (hlt : i < j)
    (hleads : Leads text .plain i .plain j [Mode.plainToken (offsetAt text i) chars] marks)
    (hdrop : text.drop i = chars ++ text.drop j)
    (hmarks : marks = if chars = ['?'] then 1 else 0) :
    Passes ⟨j, [Mode.plainToken (offsetAt text i) chars], marks⟩ text i := by
  refine ⟨hlt, hleads, .inr ⟨_, rfl, rfl, fun _ => ?_⟩, ?_⟩
  · rw [Mode.plainToken, String.toList_ofList]
    exact hdrop
  · rw [List.countP_singleton, isSymbol_plainToken, hmarks]
    simp only [decide_eq_true_eq]

end Turn.Passes

section Turns

variable {c : Char} {turns : Nat}

/-- The first character of a lexeme is no placeholder. -/
theorem leads_first {mode : Mode} (hc : text[i]? = some c) (hmark : c ≠ '?')
    (hplain : Mode.ofPlain (offsetAt text i) c = (mode, [])) :
    Leads text .plain i mode (i + 1) [] 0 :=
  .readUnmarked hc (by rw [beq_false_of_ne hmark, Bool.and_false]) hplain

theorem exists_turn_literal (hturns : text.length < turns) (hc : text[i]? = some c)
    (hquote : c = '\'' ∨ c = '"') : ∃ t, turn text turns i = some t ∧ t.Passes text i := by
  have henough : text.length - (i + 1) < turns := by omega
  obtain ⟨j, hj, hlt, hleads⟩ := exists_literalEnd c henough
  have hmark : c ≠ '?' := by rcases hquote with rfl | rfl <;> decide
  refine ⟨⟨j, [], 0⟩, ?_, .skip (by omega) ?_⟩
  · simp only [turn, hc, Option.bind_eq_bind, Option.bind_some, if_pos hquote, hj]
    rfl
  · exact (leads_first hc hmark (if_pos hquote)).trans hleads

theorem exists_turn_name (hturns : text.length < turns) (hc : text[i]? = some '\x60') :
    ∃ t, turn text turns i = some t ∧ t.Passes text i := by
  have henough : text.length - (i + 1) < turns := by omega
  obtain ⟨j, name, hj, hlt, hleads⟩ := exists_nameEnd (offsetAt text i) [] henough
  have hquote : ¬ ('\x60' = '\'' ∨ '\x60' = '"') := by decide
  refine ⟨⟨j, [Mode.nameToken (offsetAt text i) name], 0⟩, ?_, .name (by omega) ?_⟩
  · simp only [turn, hc, Option.bind_eq_bind, Option.bind_some, if_neg hquote, if_true, hj]
    rfl
  · exact (leads_first hc (by decide) rfl).trans hleads

/-- The mark of a line comment leads to where the loop begins, which reads the mark again. -/
theorem leads_lineComment (hc : text[i]? = some c)
    (hline : c = '#' ∨ c = '-' ∧ text[i + 1]? = some '-') :
    Leads text .plain i .lineComment i [] 0 := by
  rcases hline with rfl | ⟨rfl, hhyphen⟩
  · have hmark : Leads text .plain i .lineComment (i + 1) [] 0 := leads_first hc (by decide) rfl
    have hread : Leads text .lineComment i .lineComment (i + 1) [] 0 := .readUnmarked hc rfl rfl
    exact hmark.trans hread.symm
  · have hfirst : Leads text .plain i (.hyphen (offsetAt text i)) (i + 1) [] 0 :=
      leads_first hc (by decide) rfl
    have hsecond : Leads text (.hyphen (offsetAt text i)) (i + 1) .lineComment (i + 2) [] 0 :=
      .readUnmarked hhyphen rfl rfl
    have hread : Leads text .lineComment i .lineComment (i + 1) [] 0 := .readUnmarked hc rfl rfl
    have hnext : Leads text .lineComment (i + 1) .lineComment (i + 2) [] 0 :=
      .readUnmarked hhyphen rfl rfl
    exact hfirst.trans (hsecond.trans (hread.trans hnext).symm)

theorem exists_turn_line (hturns : text.length < turns) (hc : text[i]? = some c)
    (hline : c = '#' ∨ c = '-' ∧ text[i + 1]? = some '-') :
    ∃ t, turn text turns i = some t ∧ t.Passes text i := by
  have hquote : ¬ (c = '\'' ∨ c = '"') := by rcases hline with rfl | ⟨rfl, -⟩ <;> decide
  have hname : c ≠ '\x60' := by rcases hline with rfl | ⟨rfl, -⟩ <;> decide
  have hfeed : c ≠ '\n' := by rcases hline with rfl | ⟨rfl, -⟩ <;> decide
  have henough : text.length - i < turns := by omega
  obtain ⟨j, hj, hle, hlast, hleads⟩ := exists_lineEnd henough
  have hne : i ≠ j := by
    rintro rfl
    exact hfeed (hlast c hc)
  refine ⟨⟨j, [], 0⟩, ?_, .skip (by omega) ((leads_lineComment hc hline).trans hleads)⟩
  simp only [turn, hc, pairAt_eq hc, Option.bind_eq_bind, Option.bind_some, if_neg hquote,
    if_neg hname, decide_eq_true_eq, if_pos hline, hj]
  rfl

theorem exists_turn_block (hturns : text.length < turns) (hc : text[i]? = some '/')
    (hstar : text[i + 1]? = some '*') : ∃ t, turn text turns i = some t ∧ t.Passes text i := by
  have henough : text.length - (i + 2) < turns := by omega
  obtain ⟨j, hj, hlt, hleads⟩ := exists_blockEnd henough
  have hfirst : Leads text .plain i (.slash (offsetAt text i)) (i + 1) [] 0 :=
    leads_first hc (by decide) rfl
  have hsecond : Leads text (.slash (offsetAt text i)) (i + 1) .blockComment (i + 2) [] 0 :=
    .readUnmarked hstar rfl rfl
  refine ⟨⟨j, [], 0⟩, ?_, .skip (by omega) (hfirst.trans (hsecond.trans hleads))⟩
  simp [turn, hc, pairAt_eq hc, hstar, hj]

/-- The character at a position begins no literal, quoted name or comment. -/
structure Bare (text : List Char) (i : Nat) (c : Char) : Prop where
  literal : ¬ (c = '\'' ∨ c = '"')
  name : c ≠ '\x60'
  line : ¬ (c = '#' ∨ c = '-' ∧ text[i + 1]? = some '-')
  block : ¬ (c = '/' ∧ text[i + 1]? = some '*')

/-- Where nothing begins, a turn passes a blank, a word or a single mark. -/
theorem turn_of_bare (hc : text[i]? = some c) (hbare : Bare text i c) :
    turn text turns i =
      if Text.isBlank c then some ⟨i + 1, [], 0⟩
      else if isWordChar c then (wordEnd text turns i []).map fun word =>
        ⟨word.1, [Mode.plainToken (offsetAt text i) word.2], 0⟩
      else some ⟨i + 1, [Mode.plainToken (offsetAt text i) [c]], if c = '?' then 1 else 0⟩ := by
  simp only [turn, hc, pairAt_eq hc, Option.bind_eq_bind, Option.bind_some, if_neg hbare.literal,
    if_neg hbare.name, decide_eq_true_eq, if_neg hbare.line, if_neg hbare.block]
  cases wordEnd text turns i [] <;> rfl

theorem exists_turn_blank (hc : text[i]? = some c) (hbare : Bare text i c)
    (hblank : Text.isBlank c = true) : ∃ t, turn text turns i = some t ∧ t.Passes text i := by
  refine ⟨⟨i + 1, [], 0⟩, ?_, .skip i.lt_succ_self ?_⟩
  · rw [turn_of_bare hc hbare, if_pos hblank]
  · exact leads_first hc (ne_of_isBlank hblank) (Mode.ofPlain_blank _ hblank)

theorem exists_turn_word (hturns : text.length < turns) (hc : text[i]? = some c)
    (hbare : Bare text i c) (hword : isWordChar c = true) :
    ∃ t, turn text turns i = some t ∧ t.Passes text i := by
  have henough : text.length - i < turns := by omega
  obtain ⟨j, word, hj, hle, hlast, hdrop, hleads⟩ := exists_wordEnd (offsetAt text i) [] henough
  have hblank : ¬ Text.isBlank c = true := by
    intro hblank
    rw [isWordChar_of_isBlank hblank] at hword
    cases hword
  have hmark : c ≠ '?' := by
    rintro rfl
    exact absurd hword (by decide)
  have hne : i ≠ j := by
    rintro rfl
    rw [hlast c hc] at hword
    cases hword
  rw [List.nil_append] at hj hleads
  refine ⟨⟨j, [Mode.plainToken (offsetAt text i) word], 0⟩, ?_, .plain (by omega) ?_ hdrop ?_⟩
  · rw [turn_of_bare hc hbare, if_neg hblank, if_pos hword, hj]
    rfl
  · -- The scanner is in a word behind the first character, where the loop leads as well.
    have hfirst : Leads text .plain i (.word (offsetAt text i) [c]) (i + 1) [] 0 :=
      leads_first hc hmark (Mode.ofPlain_wordChar _ hword)
    exact hfirst.trans ((leads_word (offsetAt text i) [] hc hword).symm.trans hleads)
  · refine (if_neg fun hquestion => hmark ?_).symm
    rw [hquestion, drop_of_read hc] at hdrop
    exact (List.cons.inj hdrop).1

/-- A symbol is one token. A hyphen or slash is held back until it is known to begin no
comment. -/
theorem leads_symbol (hc : text[i]? = some c) (hbare : Bare text i c)
    (hblank : ¬ Text.isBlank c = true) (hword : ¬ isWordChar c = true) :
    Leads text .plain i .plain (i + 1) [Mode.plainToken (offsetAt text i) [c]]
      (if c = '?' then 1 else 0) := by
  have hsharp : c ≠ '#' := fun h => hbare.line (.inl h)
  by_cases hhyphen : c = '-'
  · subst hhyphen
    have hfirst : Leads text .plain i (.hyphen (offsetAt text i)) (i + 1) [] 0 :=
      leads_first hc (by decide) rfl
    refine hfirst.trans (.flush rfl fun d hd offset => if_neg ?_)
    exact fun h => hbare.line (.inr ⟨rfl, h ▸ hd⟩)
  by_cases hslash : c = '/'
  · subst hslash
    have hfirst : Leads text .plain i (.slash (offsetAt text i)) (i + 1) [] 0 :=
      leads_first hc (by decide) rfl
    refine hfirst.trans (.flush rfl fun d hd offset => if_neg ?_)
    exact fun h => hbare.block ⟨rfl, h ▸ hd⟩
  have hplain : Mode.ofPlain (offsetAt text i) c =
      (.plain, [Mode.plainToken (offsetAt text i) [c]]) := by
    rw [Mode.ofPlain, if_neg hbare.literal, if_neg hbare.name, if_neg hsharp, if_neg hhyphen,
      if_neg hslash, if_neg hblank, if_neg hword]
  have hread : Leads text .plain i .plain (i + 1) _ _ := .read hc hplain
  simpa [Mode.isOpen] using hread

theorem exists_turn_symbol (hc : text[i]? = some c) (hbare : Bare text i c)
    (hblank : ¬ Text.isBlank c = true) (hword : ¬ isWordChar c = true) :
    ∃ t, turn text turns i = some t ∧ t.Passes text i := by
  refine ⟨_, ?_, .plain i.lt_succ_self (leads_symbol hc hbare hblank hword) ?_ ?_⟩
  · rw [turn_of_bare hc hbare, if_neg hblank, if_neg hword]
  · exact drop_of_read hc
  · simp only [List.cons.injEq, and_true]

/-- A turn that begins inside the text comes to its end and passes a lexeme. -/
theorem exists_turn (hturns : text.length < turns) (hi : i < text.length) :
    ∃ t, turn text turns i = some t ∧ t.Passes text i := by
  obtain ⟨c, hc⟩ := read_of_lt hi
  by_cases hliteral : c = '\'' ∨ c = '"'
  · exact exists_turn_literal hturns hc hliteral
  by_cases hname : c = '\x60'
  · exact exists_turn_name hturns (hname ▸ hc)
  by_cases hline : c = '#' ∨ c = '-' ∧ text[i + 1]? = some '-'
  · exact exists_turn_line hturns hc hline
  by_cases hblock : c = '/' ∧ text[i + 1]? = some '*'
  · exact exists_turn_block hturns (hblock.1 ▸ hc) hblock.2
  have hbare : Bare text i c := ⟨hliteral, hname, hline, hblock⟩
  by_cases hblank : Text.isBlank c = true
  · exact exists_turn_blank hc hbare hblank
  by_cases hword : isWordChar c = true
  · exact exists_turn_word hturns hc hbare hword
  · exact exists_turn_symbol hc hbare hblank hword

end Turns

/-! ## The whole scan -/

/-- Offsets grow by the bytes in between. -/
theorem offsetAt_add (text : List Char) (i n : Nat) :
    offsetAt text (i + n) = offsetAt text i + byteSize ((text.drop i).take n) := by
  rw [offsetAt, List.take_add, byteSize_append]
  rfl

/-- A turn passes a lexeme, so the tokens of the rest make those of the whole. -/
theorem Turn.Passes.lexed {t : Turn} {ts : List Token} (h : t.Passes text i)
    (hi : i < text.length) (hrest : Lexed (offsetAt text t.next) (text.drop t.next) ts) :
    Lexed (offsetAt text i) (text.drop i) (t.tokens ++ ts) := by
  obtain ⟨n, hnext⟩ := Nat.exists_eq_add_of_lt h.lt
  have hsplit : text.drop i = (text.drop i).take (n + 1) ++ text.drop t.next := by
    rw [hnext, Nat.add_assoc, ← List.drop_drop, List.take_append_drop]
  have hlexeme : (text.drop i).take (n + 1) ≠ [] := by
    rw [List.drop_eq_getElem_cons hi]
    exact List.cons_ne_nil _ _
  have hoffset : offsetAt text t.next =
      offsetAt text i + byteSize ((text.drop i).take (n + 1)) := by
    rw [hnext, Nat.add_assoc, offsetAt_add]
  rw [hoffset] at hrest
  rw [hsplit]
  rcases h.lexeme with htokens | ⟨u, htokens, hstart, htext⟩
  · rw [htokens]
    exact .skip hlexeme hrest
  · rw [htokens]
    refine .token hlexeme hstart (fun hquoted => ?_) hrest
    exact List.append_cancel_right ((htext hquoted).symm.trans hsplit)

/-- What a scan finds from a position on: the tokens and placeholders that the scanner reads from
there, cut into lexemes. -/
structure Found (text : List Char) (i : Nat) (found : Option (List Token × Nat)) : Prop where
  eq_some : found = some (tokensOf (offsetAt text i) (text.drop i),
    openMarks .plain (offsetAt text i) (text.drop i))
  lexed : Lexed (offsetAt text i) (text.drop i) (tokensOf (offsetAt text i) (text.drop i))
  marks_eq : openMarks .plain (offsetAt text i) (text.drop i) =
    (tokensOf (offsetAt text i) (text.drop i)).countP (Token.isSymbol · "?")

/-- Turn by turn the scan finds the tokens that are read character by character. -/
theorem found_scanFrom {inner turns : Nat} (hinner : text.length < inner)
    (h : text.length - i < turns) : Found text i (scanFrom text inner turns i) := by
  induction turns generalizing i with
  | zero => exact absurd h (Nat.not_lt_zero _)
  | succ turns ih =>
      rw [scanFrom]
      by_cases hi : i < text.length
      · obtain ⟨t, ht, hpasses⟩ := exists_turn hinner hi
        -- The turn moves on, so the turns that are left are enough for the rest.
        have hlt := hpasses.lt
        have hrest := @ih t.next (by omega)
        have htokens : tokensOf (offsetAt text i) (text.drop i) =
            t.tokens ++ tokensOf (offsetAt text t.next) (text.drop t.next) :=
          hpasses.leads.tokens
        constructor
        · simp only [hi, if_true, ht, hrest.eq_some, Option.bind_eq_bind, Option.bind_some]
          rw [htokens, hpasses.leads.marks]
          rfl
        · rw [htokens]
          exact hpasses.lexed hi hrest.lexed
        · rw [htokens, hpasses.leads.marks, List.countP_append, ← hpasses.marks_eq,
            ← hrest.marks_eq]
      · rw [if_neg hi]
        have hnone := List.drop_of_length_le (Nat.le_of_not_lt hi)
        constructor
        · rw [hnone]
          rfl
        · rw [hnone]
          exact .done _
        · rw [hnone]
          rfl

/-- The scan finds the tokens of the whole text, given enough turns. -/
theorem found_scan {turns : Nat} {sql : String} (h : sql.length < turns) :
    Found sql.toList 0 (scan turns sql) := by
  rw [← String.length_toList] at h
  exact found_scanFrom h (by omega)

end ByPosition

/-- The tokens of a text lie in it one after the other. -/
theorem lexed_tokens (sql : String) : Lexed 0 sql.toList (tokens sql) :=
  (ByPosition.found_scan (Nat.lt_succ_self _)).lexed

/-- The placeholders are the question marks among the tokens. -/
theorem placeholders_eq_countP (sql : String) :
    placeholders sql = (tokens sql).countP (Token.isSymbol · "?") :=
  (ByPosition.found_scan (Nat.lt_succ_self _)).marks_eq

end Sql

end ScrollCursor
