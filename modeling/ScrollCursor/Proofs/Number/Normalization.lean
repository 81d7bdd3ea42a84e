import Mathlib.Data.List.Chain
import Mathlib.Tactic.NormNum
import ScrollCursor.Proofs.Number.NumeralGrammar
import ScrollCursor.Proofs.Sql.Numerals

/-! # Normalized numbers

What is made of a text from outside is a numeral for the same number. The text may have blanks
around it and a comma for the point; nothing else is taken for a number. The result can stand
unquoted in a statement: no part of it leaves the reader of the statement in a comment, in a
literal or in a quoted name. Only a minus sign needs a character other than a hyphen before it,
since two hyphens begin a comment.
-/

namespace ScrollCursor

namespace Numeral

/-! ## The point and the comma -/

/-- A text in which one character is exchanged for another. -/
def exchange (p q : Char) (cs : List Char) : List Char :=
  cs.map fun c => if c = p then q else c

theorem exchange_append (p q : Char) (cs ds : List Char) :
    exchange p q (cs ++ ds) = exchange p q cs ++ exchange p q ds :=
  List.map_append

/-- A text without the character stays as it is. -/
theorem exchange_eq_self {p : Char} (q : Char) {cs : List Char} (h : p ∉ cs) :
    exchange p q cs = cs := by
  have hsame : ∀ c ∈ cs, (if c = p then q else c) = c := by
    rintro c hc
    rw [if_neg]
    rintro rfl
    exact h hc
  rw [exchange, List.map_congr_left hsame, List.map_id']

/-- An exchange is taken back by the reverse one. -/
theorem exchange_exchange {p q : Char} {cs : List Char} (h : q ∉ cs) :
    exchange q p (exchange p q cs) = cs := by
  have hsame : ∀ c ∈ cs, ((fun c => if c = q then p else c) ∘ fun c => if c = p then q else c) c =
      c := by
    intro c hc
    have hne : c ≠ q := by
      rintro rfl
      exact h hc
    by_cases hcp : c = p
    · simp [hcp]
    · simp [hcp, hne]
  rw [exchange, exchange, List.map_map, List.map_congr_left hsame, List.map_id']

theorem IsPoint.not_mem_of_isDigit {p : Char} (hp : IsPoint p) {cs : List Char}
    (h : ∀ c ∈ cs, c.isDigit = true) : p ∉ cs := by
  intro hmem
  have hdigit := h p hmem
  rw [hp.not_isDigit] at hdigit
  cases hdigit

theorem IsPoint.not_mem_sign {p : Char} (hp : IsPoint p) (s : Sign) : p ∉ s.chars := by
  intro hmem
  have hsign := Sign.isSign_of_mem_chars p hmem
  rw [hp.not_isSign] at hsign
  cases hsign

namespace Form

variable {p q : Char} (n : Form)

theorem not_mem_exponentChars (hp : IsPoint p) : p ∉ n.exponentChars := by
  unfold exponentChars
  cases n.exponent? with
  | none => exact List.not_mem_nil
  | some e =>
      intro hmem
      rcases List.mem_cons.mp hmem with hmark | hmem
      · have hpoint := hp.notExponentMark
        rw [hmark] at hpoint
        rcases e.mark_eq with hmark | hmark <;> rw [hmark] at hpoint <;> cases hpoint
      · rcases List.mem_append.mp hmem with hmem | hmem
        · exact hp.not_mem_sign e.sign hmem
        · exact hp.not_mem_of_isDigit e.isDigit hmem

/-- Apart from its point a numeral has nothing that could be a point. -/
theorem not_mem_chars (hp : IsPoint p) (hne : p ≠ q) : p ∉ n.chars q := by
  intro hmem
  rcases List.mem_append.mp hmem with hmem | hmem
  · exact hp.not_mem_sign n.sign hmem
  · rcases List.mem_append.mp hmem with hmem | hmem
    · rcases mem_mantissaChars hmem with hmem | heq
      · exact hp.not_mem_of_isDigit n.isDigit hmem
      · exact hne heq
    · exact n.not_mem_exponentChars hp hmem

/-- Without a fraction it does not matter which character is the point. -/
theorem chars_of_fraction?_eq_none (h : n.fraction? = none) (p q : Char) :
    n.chars p = n.chars q := by
  rw [chars, chars, h]
  rfl

/-- With a fraction there is one point. -/
theorem count_chars {fraction : List Char} (hp : IsPoint p) (h : n.fraction? = some fraction) :
    (n.chars p).count p = 1 := by
  obtain ⟨hwhole, hfraction⟩ := List.forall_mem_append.mp n.isDigit
  rw [h, Option.getD_some] at hfraction
  have hnone {cs : List Char} (hcs : p ∉ cs) : cs.count p = 0 := List.count_eq_zero.mpr hcs
  rw [chars, h, mantissaChars, Option.map_some, Option.getD_some, List.count_append,
    List.count_append, List.count_append, hnone (hp.not_mem_sign n.sign),
    hnone (hp.not_mem_of_isDigit hwhole), List.count_cons_self,
    hnone (hp.not_mem_of_isDigit hfraction), hnone (n.not_mem_exponentChars hp)]

/-- To exchange the point writes the same number with the other one. -/
theorem exchange_chars (hp : IsPoint p) (q : Char) : exchange p q (n.chars p) = n.chars q := by
  obtain ⟨hwhole, hfraction⟩ := List.forall_mem_append.mp n.isDigit
  rw [chars, chars, exchange_append, exchange_append, exchange_eq_self q (hp.not_mem_sign n.sign),
    exchange_eq_self q (n.not_mem_exponentChars hp), mantissaChars, mantissaChars,
    exchange_append, exchange_eq_self q (hp.not_mem_of_isDigit hwhole)]
  cases hcase : n.fraction? with
  | none => rfl
  | some ds =>
      rw [hcase, Option.getD_some] at hfraction
      have hds := exchange_eq_self q (hp.not_mem_of_isDigit hfraction)
      change n.sign.chars ++ (n.whole ++ (if p = p then q else p) :: exchange p q ds ++ _) = _
      rw [if_pos rfl, hds]
      rfl

end Form

/-- A text becomes a numeral with a point just if it is that numeral with a point or a comma. -/
theorem commaToPoint_eq_chars_iff {cs : List Char} {n : Form} :
    commaToPoint cs = n.chars '.' ↔ ∃ point, IsPoint point ∧ cs = n.chars point := by
  have hpoint : IsPoint '.' := .inl rfl
  have hcomma : IsPoint ',' := .inr rfl
  constructor
  · intro h
    unfold commaToPoint at h
    split at h
    next hcond =>
      simp only [Bool.and_eq_true, Bool.not_eq_true', List.contains_eq_mem, decide_eq_false_iff_not]
        at hcond
      -- There was no point in the text, so the exchange can be taken back.
      have hback := exchange_exchange (p := ',') hcond.1
      change exchange ',' '.' cs = n.chars '.' at h
      rw [h, n.exchange_chars hpoint] at hback
      exact ⟨',', hcomma, hback.symm⟩
    next => exact ⟨'.', hpoint, h⟩
  · rintro ⟨point, rfl | rfl, rfl⟩
    · exact commaToPoint_eq_self (n.not_mem_chars hcomma (by decide))
    · cases hfraction : n.fraction? with
      | none =>
          rw [n.chars_of_fraction?_eq_none hfraction ',' '.']
          exact commaToPoint_eq_self (n.not_mem_chars hcomma (by decide))
      | some ds =>
          have hnone : '.' ∉ n.chars ',' := n.not_mem_chars hpoint (by decide)
          have hone : (n.chars ',').count ',' = 1 := n.count_chars hcomma hfraction
          rw [commaToPoint, if_pos (by simp [hnone, hone])]
          exact n.exchange_chars hcomma '.'

/-! ## What texts denote -/

/-- The text is a numeral for the number, with a point or a comma in it and blanks around it. -/
def Denotes (cs : List Char) (value : ℚ) : Prop :=
  ∃ (before after : List Char) (point : Char) (n : Form),
    (∀ c ∈ before ++ after, Text.isBlank c = true) ∧ IsPoint point ∧
      cs = before ++ (n.chars point ++ after) ∧ n.value = value

/-- A number is written with digits, signs, a point and the mark of an exponent. -/
theorem Form.isNumeralChar (n : Form) : ∀ c ∈ n.chars '.', Sql.isNumeralChar c = true :=
  Sql.isNumeralChar_of_isNumeral (isNumeral_iff.mpr ⟨n, rfl⟩)

theorem Form.isBlank_of_mem_chars {point : Char} (n : Form) (hpoint : IsPoint point) :
    ∀ c ∈ n.chars point, Text.isBlank c = false := by
  intro c hc
  rw [← n.exchange_chars (.inl rfl) point] at hc
  obtain ⟨d, hd, rfl⟩ := List.mem_map.mp hc
  split
  · rcases hpoint with rfl | rfl <;> decide
  · exact Sql.isBlank_of_isNumeralChar (n.isNumeralChar d hd)

/-- Trimming brings out a numeral with blanks around it. -/
theorem Form.trim_eq {point : Char} {n : Form} {before after : List Char} (hpoint : IsPoint point)
    (hblanks : ∀ c ∈ before ++ after, Text.isBlank c = true) :
    Text.trim (before ++ (n.chars point ++ after)) = n.chars point :=
  Text.trim_around hblanks (n.isBlank_of_mem_chars hpoint)

/-- A text denotes one number at the most. -/
theorem Form.denotes_iff {cs before after : List Char} {point : Char} {n : Form} {value : ℚ}
    (hpoint : IsPoint point) (hblanks : ∀ c ∈ before ++ after, Text.isBlank c = true)
    (hcs : cs = before ++ (n.chars point ++ after)) : Denotes cs value ↔ value = n.value := by
  constructor
  · rintro ⟨before', after', point', n', hblanks', hpoint', hcs', rfl⟩
    have htrim := congrArg Text.trim (hcs.symm.trans hcs')
    rw [trim_eq hpoint hblanks, trim_eq hpoint' hblanks'] at htrim
    rw [eq_of_chars_eq hpoint hpoint' htrim]
  · rintro rfl
    exact ⟨before, after, point, n, hblanks, hpoint, hcs, rfl⟩

/-- What is normalized is a numeral with a point or a comma and blanks around it, and becomes the
same numeral with a point. -/
theorem normalize?_eq_some_iff {text r : String} :
    normalize? text = some r ↔
      ∃ (before after : List Char) (point : Char) (n : Form),
        (∀ c ∈ before ++ after, Text.isBlank c = true) ∧ IsPoint point ∧
          text.toList = before ++ (n.chars point ++ after) ∧ r.toList = n.chars '.' := by
  unfold normalize?
  constructor
  · intro h
    dsimp only at h
    split at h
    next hnumeral =>
      obtain ⟨n, hn⟩ := isNumeral_iff.mp hnumeral
      obtain ⟨point, hpoint, htrim⟩ := commaToPoint_eq_chars_iff.mp hn.symm
      obtain ⟨before, after, hblanks, htext⟩ := Text.exists_blanks_trim text.toList
      rw [htrim] at htext
      refine ⟨before, after, point, n, hblanks, hpoint, htext, ?_⟩
      rw [← Option.some.inj h, String.toList_ofList, hn]
    next => cases h
  · rintro ⟨before, after, point, n, hblanks, hpoint, htext, hr⟩
    have hchars : commaToPoint (Text.trim text.toList) = n.chars '.' := by
      rw [htext, Form.trim_eq hpoint hblanks]
      exact commaToPoint_eq_chars_iff.mpr ⟨point, hpoint, rfl⟩
    dsimp only
    rw [hchars, if_pos (isNumeral_iff.mpr ⟨n, rfl⟩), ← hr, String.ofList_toList]

end Numeral

namespace Sql

/-! ## Numerals in statements -/

/-- Put after any text that leaves the reader of a statement outside of comments, literals and
quoted names, the characters keep it there: each of them that is read does, and none of them is
held back for a comment that may begin with what follows. Two hyphens must not meet. -/
def OpensNothing (cs : List Char) : Prop :=
  ∀ before : List Char, (modeAfter .plain 0 before).isOpen = true →
    (before.getLast? = some '-' → cs.head? ≠ some '-') →
      (∀ part, part <+: cs → (modeAfter .plain 0 (before ++ part)).isOpen = true) ∧
        (modeAfter .plain 0 (before ++ cs)).isCalm = true

/-- Two characters that are not both hyphens. -/
def NotBothHyphens (c d : Char) : Prop :=
  c = '-' → d ≠ '-'

namespace Mode

variable {mode : Mode} {offset start : Nat} {c : Char}

theorem eq_hyphen_of_ofPlain (h : (ofPlain offset c).1 = .hyphen start) : c = '-' := by
  unfold ofPlain at h
  by_contra hne
  rw [if_neg hne] at h
  repeat' split at h
  all_goals cases h

/-- Only a hyphen is held back as one. -/
theorem eq_hyphen_of_step (h : (mode.step offset c).1 = .hyphen start) : c = '-' := by
  cases mode with
  | plain => exact eq_hyphen_of_ofPlain h
  | word | nameQuote | hyphen | slash =>
      rw [step] at h
      split at h
      · cases h
      · exact eq_hyphen_of_ofPlain h
  | name | literal | literalEscape | lineComment | blockComment | blockStar =>
      rw [step] at h
      repeat' split at h
      all_goals cases h

/-- A hyphen may begin a comment, unless another stands before it. -/
theorem step_hyphen (offset : Nat) (hopen : mode.isOpen = true)
    (hne : ∀ start, mode ≠ .hyphen start) : (mode.step offset '-').1 = .hyphen offset := by
  have hword : ¬ isWordChar '-' = true := by decide
  cases mode with
  | plain | nameQuote | slash => rfl
  | word => rw [step, if_neg hword]; rfl
  | hyphen start => exact absurd rfl (hne start)
  | name | literal | literalEscape | lineComment | blockComment | blockStar => cases hopen

end Mode

/-- Only a text that ends in a hyphen leaves it open whether a comment begins. -/
theorem getLast?_of_modeAfter_eq_hyphen {cs : List Char} {start : Nat}
    (h : modeAfter .plain 0 cs = .hyphen start) : cs.getLast? = some '-' := by
  rcases List.eq_nil_or_concat cs with rfl | ⟨init, c, rfl⟩
  · cases h
  · rw [List.concat_eq_append, modeAfter_append] at h
    rw [List.concat_eq_append, List.getLast?_concat, Mode.eq_hyphen_of_step h]

/-- Single hyphens among characters without a meaning of their own keep the scanner where it is. -/
theorem isOpen_modeAfter_of_isChain {mode : Mode} (offset : Nat) {cs : List Char}
    (hopen : mode.isOpen = true) (hmarks : ∀ c ∈ cs, c ∈ marks → c = '-')
    (hchain : cs.IsChain NotBothHyphens)
    (hhead : ∀ start, mode = .hyphen start → cs.head? ≠ some '-') :
    (modeAfter mode offset cs).isOpen = true := by
  induction cs generalizing mode offset with
  | nil => exact hopen
  | cons c cs ih =>
      obtain ⟨hnext, hrest⟩ := List.isChain_cons.mp hchain
      have hmarks' : ∀ d ∈ cs, d ∈ marks → d = '-' :=
        fun d hd => hmarks d (List.mem_cons_of_mem c hd)
      rw [modeAfter]
      by_cases hc : c = '-'
      · -- No hyphen is held back before this one, and none follows it.
        subst hc
        have hmode : ∀ start, mode ≠ .hyphen start := fun start h => hhead start h rfl
        rw [Mode.step_hyphen offset hopen hmode]
        exact ih _ rfl hmarks' hrest fun _ _ hhyphen => hnext '-' hhyphen rfl rfl
      · have hmark : c ∉ marks := fun hmem => hc (hmarks c List.mem_cons_self hmem)
        have hcalm := Mode.isCalm_step offset hopen hmark
        refine ih _ (Mode.isOpen_of_isCalm hcalm) hmarks' hrest fun start h => ?_
        rw [h] at hcalm
        cases hcalm

/-- Characters end outside of everything, and hold nothing back, if the last of them have no
meaning of their own. -/
theorem opensNothing_of_isChain {cs init tail : List Char} (hmarks : ∀ c ∈ cs, c ∈ marks → c = '-')
    (hchain : cs.IsChain NotBothHyphens) (hcs : cs = init ++ tail) (hne : tail ≠ [])
    (htail : ∀ c ∈ tail, c ∉ marks) : OpensNothing cs := by
  intro before hopen hmeet
  have hpart : ∀ part, part <+: cs → (modeAfter .plain 0 (before ++ part)).isOpen = true := by
    rintro part ⟨rest, rfl⟩
    rw [modeAfter_append]
    refine isOpen_modeAfter_of_isChain _ hopen
      (fun c hc => hmarks c (List.mem_append_left rest hc)) hchain.left_of_append
      fun start hmode hhead => ?_
    -- A first part begins as the whole does.
    refine hmeet (getLast?_of_modeAfter_eq_hyphen hmode) ?_
    rw [List.head?_append, hhead, Option.some_or]
  refine ⟨hpart, ?_⟩
  have hinit := hpart init ⟨tail, hcs.symm⟩
  rw [hcs, ← List.append_assoc, modeAfter_append]
  exact isCalm_modeAfter_of_isOpen _ hinit hne htail

/-- A text without hyphens has no two in a row. -/
theorem isChain_of_not_mem {cs : List Char} (h : '-' ∉ cs) : cs.IsChain NotBothHyphens := by
  refine (List.pairwise_of_forall_mem_list ?_).isChain
  rintro c hc d - rfl
  exact absurd hc h

/-- Of the characters of a numeral only the hyphen can begin anything. -/
theorem eq_hyphen_of_mem_marks {c : Char} (h : isNumeralChar c = true) (hmark : c ∈ marks) :
    c = '-' := by
  have hmarks : marks.all (fun d => !isNumeralChar d || d == '-') = true := by decide
  have hc := List.all_eq_true.mp hmarks c hmark
  rwa [h, Bool.not_true, Bool.false_or, beq_iff_eq] at hc

end Sql

namespace Numeral

open Sql (NotBothHyphens OpensNothing)

/-! ## Numerals open nothing -/

theorem head?_ne_hyphen {cs : List Char} (h : cs.takeWhile isSign = []) : cs.head? ≠ some '-' := by
  intro hhead
  cases cs with
  | nil => cases hhead
  | cons c cs =>
      rw [List.head?_cons, Option.some.injEq] at hhead
      rw [hhead, List.takeWhile_cons_of_pos (by decide)] at h
      cases h

/-- A sign puts no second hyphen in front of what begins with no sign. -/
theorem Sign.isChain_append (s : Sign) {cs : List Char} (hchain : cs.IsChain NotBothHyphens)
    (hstart : cs.takeWhile isSign = []) : (s.chars ++ cs).IsChain NotBothHyphens := by
  cases s with
  | absent => exact hchain
  | plus | minus =>
      refine List.isChain_cons.mpr ⟨?_, hchain⟩
      rintro d hd - rfl
      exact head?_ne_hyphen hstart hd

namespace Form

variable (n : Form)

theorem not_mem_mantissaChars : '-' ∉ mantissaChars '.' n.whole n.fraction? := by
  intro hmem
  rcases mem_mantissaChars hmem with hmem | heq
  · exact absurd (n.isDigit _ hmem) (by decide)
  · exact absurd heq (by decide)

/-- An exponent has no two hyphens in a row. -/
theorem isChain_exponentChars : n.exponentChars.IsChain NotBothHyphens := by
  unfold exponentChars
  cases n.exponent? with
  | none => exact .nil
  | some e =>
      have hdigits : '-' ∉ e.digits := fun hmem => absurd (e.isDigit _ hmem) (by decide)
      refine List.isChain_cons.mpr ⟨fun d _ hmark => ?_, ?_⟩
      · rcases e.mark_eq with h | h <;> rw [h] at hmark <;> exact absurd hmark (by decide)
      · exact e.sign.isChain_append (Sql.isChain_of_not_mem hdigits)
          (takeWhile_isSign_of_isDigit e.isDigit)

/-- A number has no two hyphens in a row. -/
theorem isChain_chars : (n.chars '.').IsChain NotBothHyphens := by
  refine n.sign.isChain_append (List.isChain_append.mpr ?_) (n.takeWhile_isSign (.inl rfl))
  refine ⟨Sql.isChain_of_not_mem n.not_mem_mantissaChars, n.isChain_exponentChars, ?_⟩
  rintro c hc - - rfl
  exact absurd (List.mem_of_getLast? hc) n.not_mem_mantissaChars

/-- A numeral ends in a digit or in its point. -/
theorem exists_tail :
    ∃ init tail, n.chars '.' = init ++ tail ∧ tail ≠ [] ∧ ∀ c ∈ tail, c ∉ Sql.marks := by
  cases h : n.exponent? with
  | none =>
      refine ⟨n.sign.chars, mantissaChars '.' n.whole n.fraction?, ?_,
        mantissaChars_ne_nil _ n.ne_nil, fun c hc => ?_⟩
      · rw [chars, exponentChars, h]
        exact congrArg _ (List.append_nil _)
      · rcases mem_mantissaChars hc with hc | rfl
        · exact Sql.not_mem_marks_of_isDigit (n.isDigit c hc)
        · decide
  | some e =>
      refine ⟨n.sign.chars ++ (mantissaChars '.' n.whole n.fraction? ++ e.mark :: e.sign.chars),
        e.digits, ?_, e.ne_nil, fun c hc => Sql.not_mem_marks_of_isDigit (e.isDigit c hc)⟩
      rw [chars, exponentChars, h, List.append_assoc, List.append_assoc, List.cons_append]
      rfl

/-- A number begins no comment. -/
theorem opensNothing_chars : OpensNothing (n.chars '.') := by
  obtain ⟨init, tail, hchars, hne, htail⟩ := n.exists_tail
  exact Sql.opensNothing_of_isChain
    (fun c hc hmark => Sql.eq_hyphen_of_mem_marks (n.isNumeralChar c hc) hmark)
    n.isChain_chars hchars hne htail

/-- A number has one point at most. -/
theorem count_point_le : (n.chars '.').count '.' ≤ 1 := by
  cases h : n.fraction? with
  | none =>
      have hnone : '.' ∉ n.chars ',' := n.not_mem_chars (.inl rfl) (by decide)
      rw [n.chars_of_fraction?_eq_none h '.' ',', List.count_eq_zero.mpr hnone]
      exact Nat.zero_le 1
  | some ds => exact (n.count_chars (.inl rfl) h).le

end Form

/-! ## Normalized texts -/

/-- A text is accepted just if, trimmed and with a single comma for a missing point, it is a
numeral, and this is what it becomes. The result has no characters but those of numerals and one
point at the most, opens nothing in a statement, is left alone when it is normalized once more,
and stands for the number that the text stands for. -/
theorem normalize?_spec (text : String) :
    (∀ r, normalize? text = some r ↔
      r.toList = commaToPoint (Text.trim text.toList) ∧ ∃ n : Form, n.chars '.' = r.toList) ∧
    ∀ r, normalize? text = some r →
      (∀ c ∈ r.toList, c.isDigit = true ∨ c ∈ ['+', '-', '.', 'e', 'E']) ∧
      r.toList.count '.' ≤ 1 ∧
      OpensNothing r.toList ∧
      normalize? r = some r ∧
      ∃ value : ℚ, (∀ q, Denotes text.toList q ↔ q = value) ∧
        ∀ q, Denotes r.toList q ↔ q = value := by
  refine ⟨fun r => ⟨fun h => ?_, ?_⟩, fun r h => ?_⟩
  · obtain ⟨before, after, point, n, hblanks, hpoint, htext, hr⟩ := normalize?_eq_some_iff.mp h
    refine ⟨?_, n, hr.symm⟩
    rw [hr, htext, Form.trim_eq hpoint hblanks]
    exact (commaToPoint_eq_chars_iff.mpr ⟨point, hpoint, rfl⟩).symm
  · rintro ⟨hr, hn⟩
    rw [hr] at hn
    rw [normalize?, if_pos (isNumeral_iff.mpr hn), ← hr, String.ofList_toList]
  · obtain ⟨before, after, point, n, hblanks, hpoint, htext, hr⟩ := normalize?_eq_some_iff.mp h
    refine ⟨?_, ?_, ?_, ?_, n.value, fun q => Form.denotes_iff hpoint hblanks htext, fun q => ?_⟩
    · intro c hc
      have hchar := n.isNumeralChar c (hr ▸ hc)
      simp only [Sql.isNumeralChar, Sql.isMantissaChar, Bool.or_eq_true, beq_iff_eq] at hchar
      rcases hchar with ((((hdigit | rfl) | rfl) | rfl) | rfl) | rfl
      · exact .inl hdigit
      all_goals exact .inr (by decide)
    · rw [hr]
      exact n.count_point_le
    · rw [hr]
      exact n.opensNothing_chars
    · exact normalize?_of_isNumeral (isNumeral_iff.mpr ⟨n, hr.symm⟩)
    · have hnone : ∀ c ∈ ([] ++ [] : List Char), Text.isBlank c = true :=
        fun c hc => absurd hc List.not_mem_nil
      exact Form.denotes_iff (.inl rfl) hnone (by rw [hr, List.nil_append, List.append_nil])

/-- A comma with digits on both sides of it is a decimal comma. -/
theorem normalize?_spec_comma :
    normalize? " -1,5e2 " = some "-1.5e2" ∧ Denotes " -1,5e2 ".toList (-150) ∧
      Denotes "-1.5e2".toList (-150) := by
  have h : normalize? " -1,5e2 " = some "-1.5e2" := by decide +kernel
  have htext : Denotes " -1,5e2 ".toList (-150) := by
    refine ⟨[' '], [' '], ',', ⟨.minus, ['1'], some ['5'], some ⟨'e', .absent, ['2'], .inl rfl,
      List.cons_ne_nil _ _, List.all_eq_true.mp rfl⟩, List.cons_ne_nil _ _,
      List.all_eq_true.mp rfl⟩, List.all_eq_true.mp rfl, .inr rfl, rfl, ?_⟩
    change ((-(15 : Nat) : Int) : ℚ) * 10 ^ ((2 : Int) - (1 : Nat)) = -150
    norm_num
  obtain ⟨-, -, -, -, value, hvalue, hresult⟩ := (normalize?_spec " -1,5e2 ").2 _ h
  exact ⟨h, htext, (hresult _).mpr ((hvalue _).mp htext)⟩

end Numeral

end ScrollCursor
