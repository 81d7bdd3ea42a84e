import ScrollCursor.Proofs.Sql.Scanning

/-! # Lexemes

A text is cut into lexemes: blanks, literals, comments, quoted names, words and symbols, none of
them empty and one right behind the other. A lexeme is one token or none. The token is found where
its lexeme begins, and unless it is quoted it says what the lexeme says. So tokens start in order,
and an unquoted one is a piece of the text that ends before the next one starts.
-/

namespace ScrollCursor

namespace Sql

/-- The characters, which begin at an offset, are cut into lexemes that are these tokens. -/
inductive Lexed : Nat → List Char → List Token → Prop where
  | done (offset : Nat) : Lexed offset [] []
  /-- A blank, a literal or a comment. -/
  | skip {offset : Nat} {lexeme rest : List Char} {ts : List Token} (hlexeme : lexeme ≠ [])
      (hrest : Lexed (offset + byteSize lexeme) rest ts) : Lexed offset (lexeme ++ rest) ts
  /-- A quoted name, a word or a symbol. -/
  | token {offset : Nat} {lexeme rest : List Char} {t : Token} {ts : List Token}
      (hlexeme : lexeme ≠ []) (hstart : t.start = offset)
      (htext : t.quoted = false → t.text.toList = lexeme)
      (hrest : Lexed (offset + byteSize lexeme) rest ts) : Lexed offset (lexeme ++ rest) (t :: ts)

namespace Token

/-- The token has a lexeme of the characters, which begin at an offset. -/
def StandsIn (t : Token) (offset : Nat) (cs : List Char) : Prop :=
  ∃ before lexeme after, cs = before ++ (lexeme ++ after) ∧
    t.start = offset + byteSize before ∧ (t.quoted = false → t.text.toList = lexeme)

/-- The token starts before the other one, and unless it is quoted it ends there at the latest. -/
def Precedes (t u : Token) : Prop :=
  t.start < u.start ∧ (t.quoted = false → t.start + t.text.utf8ByteSize ≤ u.start)

variable {t : Token} {offset : Nat} {cs ds : List Char}

theorem StandsIn.behind (h : t.StandsIn (offset + byteSize cs) ds) :
    t.StandsIn offset (cs ++ ds) := by
  obtain ⟨before, lexeme, after, rfl, hstart, htext⟩ := h
  refine ⟨cs ++ before, lexeme, after, (List.append_assoc _ _ _).symm, ?_, htext⟩
  rw [hstart, byteSize_append, Nat.add_assoc]

theorem StandsIn.offset_le (h : t.StandsIn offset cs) : offset ≤ t.start := by
  obtain ⟨before, -, -, -, hstart, -⟩ := h
  exact Nat.le.intro hstart.symm

end Token

namespace Lexed

variable {offset : Nat} {cs : List Char} {ts : List Token}

theorem standsIn (h : Lexed offset cs ts) : ∀ t ∈ ts, t.StandsIn offset cs := by
  induction h with
  | done =>
      intro t ht
      cases ht
  | skip _ _ ih => exact fun t ht => (ih t ht).behind
  | token _ hstart htext _ ih =>
      intro t ht
      rcases List.mem_cons.mp ht with rfl | ht
      · exact ⟨[], _, _, rfl, hstart, htext⟩
      · exact (ih t ht).behind

/-- The tokens stand one behind the other. -/
theorem pairwise_precedes (h : Lexed offset cs ts) : ts.Pairwise Token.Precedes := by
  induction h with
  | done => exact .nil
  | skip _ _ ih => exact ih
  | token hlexeme hstart htext hrest ih =>
      refine .cons (fun u hu => ?_) ih
      have hsize := byteSize_pos hlexeme
      have hle := (hrest.standsIn u hu).offset_le
      refine ⟨by omega, fun hquoted => ?_⟩
      rw [← byteSize_toList, htext hquoted, hstart]
      exact hle

end Lexed

end Sql

end ScrollCursor
