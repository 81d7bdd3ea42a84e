import ScrollCursor.Proofs.Sql.PositionedRewriting
import ScrollCursor.Proofs.Sql.ScanByPosition

/-! # Well-scanned statements

What holds of the tokens of every statement, unfinished literals, names and comments included.
They start in order and where characters begin, and an unquoted one is the slice of the statement
at its start. A positioned clause is found at such a place, so the statement can be split there.
-/

namespace ScrollCursor

namespace Sql

/-! ## Slices -/

/-- The statement has the text as its slice at a byte offset. -/
def SliceAt (sql : String) (offset : Nat) (s : String) : Prop :=
  ∃ before after, sql = before ++ s ++ after ∧ before.utf8ByteSize = offset

/-- A slice begins at a character boundary. -/
theorem SliceAt.isValid {sql : String} {offset : Nat} {s : String} (h : SliceAt sql offset s) :
    String.Pos.Raw.IsValid sql ⟨offset⟩ := by
  obtain ⟨before, after, rfl, rfl⟩ := h
  rw [String.Pos.Raw.isValid_iff_exists_append]
  exact ⟨before, s ++ after, String.append_assoc, rfl⟩

/-- The bytes of the first of two texts are the text. -/
theorem takeBytes_append (before after : String) :
    takeBytes before.utf8ByteSize (before ++ after).toList = before.toList := by
  rw [← byteSize_toList, String.toList_append, takeBytes_byteSize]

section Tokens

variable {sql : String} {t : Token}

/-- Every token has a lexeme of the statement, which is its text unless it is quoted. -/
theorem exists_sliceAt (ht : t ∈ tokens sql) :
    ∃ lexeme, SliceAt sql t.start lexeme ∧ (t.quoted = false → t.text = lexeme) := by
  obtain ⟨before, lexeme, after, hsql, hstart, htext⟩ := (lexed_tokens sql).standsIn t ht
  refine ⟨String.ofList lexeme, ⟨String.ofList before, String.ofList after, ?_, ?_⟩, ?_⟩
  · rw [← String.ofList_append, ← String.ofList_append, List.append_assoc, ← hsql,
      String.ofList_toList]
  · rw [utf8ByteSize_ofList, hstart, Nat.zero_add]
  · intro hquoted
    rw [← htext hquoted, String.ofList_toList]

/-- No token starts at the end of the statement. -/
theorem start_lt_of_mem (ht : t ∈ tokens sql) : t.start < sql.utf8ByteSize := by
  have hwithin := startWithin_tokensOf 0 sql.toList t ht
  rw [Nat.zero_add, byteSize_toList] at hwithin
  exact hwithin.2

end Tokens

/-! ## The scan of a statement -/

/-- What the scan of a statement promises. -/
structure WellScanned (sql : String) : Prop where
  /-- Read by position, the statement is scanned to its end without a read past it, and no loop
  takes more turns than the statement has characters and one. -/
  byPosition : ∀ turns, sql.length < turns →
    ByPosition.scan turns sql = some (tokens sql, placeholders sql)
  /-- A token starts inside of the statement, where a character begins. -/
  boundary : ∀ t ∈ tokens sql,
    String.Pos.Raw.IsValid sql ⟨t.start⟩ ∧ t.start < sql.utf8ByteSize
  /-- Tokens start one after the other, and an unquoted one ends before the next one starts. -/
  inOrder : (tokens sql).Pairwise Token.Precedes
  /-- An unquoted token is the slice of the statement at its start. -/
  slice : ∀ t ∈ tokens sql, t.quoted = false → SliceAt sql t.start t.text
  placeholders_eq : placeholders sql = (tokens sql).countP (Token.isSymbol · "?")
  /-- A positioned clause begins at a character boundary, where the statement reads `WHERE` in
  either case. So the statement splits there, and it is rewritten with what stands before. -/
  clause : ∀ clause, (StatementText.parse sql).positioned = some clause →
    String.Pos.Raw.IsValid sql ⟨clause.offset⟩ ∧
      ∃ head word rest, sql = head ++ word ++ rest ∧ head.utf8ByteSize = clause.offset ∧
        Text.sameName word "WHERE" = true ∧
        ∀ predicate, (StatementText.parse sql).withPredicate? predicate =
          some (String.ofList (Text.trimEnd head.toList) ++ " WHERE " ++ predicate)

/-- Every text is well scanned, whatever it leaves unfinished: its tokens stand in it in their
order, its placeholders are counted among them, and it can be divided where its positioned clause
begins. -/
theorem wellScanned (sql : String) : WellScanned sql where
  byPosition turns hturns := (ByPosition.found_scan hturns).eq_some
  boundary t ht := by
    obtain ⟨lexeme, hslice, -⟩ := exists_sliceAt ht
    exact ⟨hslice.isValid, start_lt_of_mem ht⟩
  inOrder := (lexed_tokens sql).pairwise_precedes
  slice t ht hquoted := by
    obtain ⟨lexeme, hslice, htext⟩ := exists_sliceAt ht
    rwa [htext hquoted]
  placeholders_eq := placeholders_eq_countP sql
  clause clause hclause := by
    obtain ⟨t, ht, hwhere, hstart⟩ := exists_keyword_of_positioned hclause
    obtain ⟨hquoted, hname⟩ := Bool.and_eq_true_iff.mp hwhere
    obtain ⟨lexeme, hslice, htext⟩ := exists_sliceAt ht
    rw [← htext (by simpa using hquoted), hstart] at hslice
    refine ⟨hslice.isValid, ?_⟩
    obtain ⟨head, rest, hsql, hsize⟩ := hslice
    refine ⟨head, t.text, rest, hsql, hsize, hname, fun predicate => ?_⟩
    have hhead : takeBytes clause.offset sql.toList = head.toList := by
      rw [hsql, String.append_assoc, ← hsize, takeBytes_append]
    rw [StatementText.withPredicate?, hclause, ← hhead]
    rfl

/-- A name with a backtick inside stands between two comments, the second one unfinished. -/
example : tokens "é--x\n\x60a\x60\x60b\x60?/*" =
    [⟨"é", 0, false⟩, ⟨"a\x60b", 6, true⟩, ⟨"?", 12, false⟩] := by
  decide +kernel

end Sql

end ScrollCursor
