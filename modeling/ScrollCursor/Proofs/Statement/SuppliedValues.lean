import ScrollCursor.MemoryServer
import ScrollCursor.Proofs.Positioned.BoundValues
import ScrollCursor.Statement.Call

/-! # Values supplied in pieces

A call that waits for values takes them one column after another, each in as many pieces as the
caller likes. It ends as it would have ended at once if the concatenation of the pieces had been
bound to each of these columns.
-/

namespace ScrollCursor

/-! ## Pieces of a value -/

namespace Value

/-- What a piece adds to a text. -/
def textPiece? : Value → Option String
  | .string s => some s
  | _ => none

/-- What a piece adds to a binary value. -/
def bytesPiece? : Value → Option Text.Bytes
  | .binary bytes => some bytes
  | .string s => some (Text.utf8 s)
  | _ => none

/-- The concatenation of pieces, NULL if there are none. Only texts and binary values grow, and a
piece that cannot be added to the first one counts for nothing. -/
def joined : List Value → Value
  | [] => .null
  | .string s :: more => .string (s ++ String.join (more.filterMap textPiece?))
  | .binary bytes :: more => .binary (bytes ++ (more.filterMap bytesPiece?).flatten)
  | v :: _ => v

/-- What has been collected of a value after one more piece. -/
def collect (value : Option Value) (piece : Value) : Option Value :=
  match value with
  | none => some piece
  | some whole => some ((whole.append? piece).getD whole)

/-- Pieces of text are joined to a text. -/
theorem foldl_collect_string (s : String) (pieces : List Value) :
    pieces.foldl collect (some (.string s)) =
      some (.string (s ++ String.join (pieces.filterMap textPiece?))) := by
  induction pieces generalizing s with
  | nil => simp [String.join]
  | cons piece pieces ih =>
      cases piece with
      | string more =>
          have hgrown : collect (some (.string s)) (.string more) = some (.string (s ++ more)) :=
            rfl
          have hpiece : textPiece? (.string more) = some more := rfl
          rw [List.foldl_cons, hgrown, ih, List.filterMap_cons_some hpiece, String.join_cons,
            String.append_assoc]
      | null | binary | integer | float | decimal | boolean | date | time | timestamp | json =>
          rw [List.filterMap_cons_none rfl]
          exact ih s

/-- Pieces of bytes are joined to bytes. -/
theorem foldl_collect_binary (bytes : Text.Bytes) (pieces : List Value) :
    pieces.foldl collect (some (.binary bytes)) =
      some (.binary (bytes ++ (pieces.filterMap bytesPiece?).flatten)) := by
  induction pieces generalizing bytes with
  | nil => simp
  | cons piece pieces ih =>
      cases hpiece : piece.bytesPiece? with
      | some more =>
          have hgrown : collect (some (.binary bytes)) piece = some (.binary (bytes ++ more)) := by
            cases piece <;> cases hpiece <;> rfl
          rw [List.foldl_cons, hgrown, ih, List.filterMap_cons_some hpiece, List.flatten_cons,
            List.append_assoc]
      | none =>
          have hstays : collect (some (.binary bytes)) piece = some (.binary bytes) := by
            cases piece <;> first | rfl | cases hpiece
          rw [List.foldl_cons, hstays, ih, List.filterMap_cons_none hpiece]

/-- A value that nothing can be appended to stays as it was supplied first. -/
theorem foldl_collect_of_rigid {v : Value} (h : ∀ piece, v.append? piece = none)
    (pieces : List Value) : pieces.foldl collect (some v) = some v := by
  induction pieces with
  | nil => rfl
  | cons piece pieces ih =>
      rw [List.foldl_cons, collect, h]
      exact ih

/-- What is collected from pieces is their concatenation. -/
theorem getD_foldl_collect (pieces : List Value) :
    (pieces.foldl collect none).getD .null = joined pieces := by
  cases pieces with
  | nil => rfl
  | cons v pieces =>
      change (pieces.foldl collect (some v)).getD .null = _
      cases v with
      | string s => rw [foldl_collect_string]; rfl
      | binary bytes => rw [foldl_collect_binary]; rfl
      | null | integer | float | decimal | boolean | date | time | timestamp | json =>
          rw [foldl_collect_of_rigid (fun piece => by cases piece <;> rfl)]
          rfl

end Value

/-! ## Collecting -/

namespace Continuation

variable {p : Continuation}

/-- One more piece of the value of a column; a piece that is refused changes nothing. -/
def take (p : Continuation) (column : Nat) (piece : Value) : Continuation :=
  (p.put column piece).toOption.getD p

/-- To replace one supplied value leaves the others. -/
theorem lookup_replaced (values : Supplied) (column : Nat) (whole : Value) (other : Nat) :
    (values.map fun entry => if entry.1 = column then (column, whole) else entry).lookup other =
      if other = column then (values.lookup other).map fun _ => whole else values.lookup other := by
  induction values with
  | nil => simp
  | cons entry values ih =>
      obtain ⟨key, v⟩ := entry
      have hentry : (if key = column then (column, whole) else (key, v)) =
          (key, if key = column then whole else v) := by
        split
        next hkey => rw [hkey]
        next => rfl
      rw [List.map_cons]
      dsimp only
      rw [hentry, List.lookup_cons, List.lookup_cons, ih]
      by_cases hkey : other = key
      · subst hkey
        have hhere : (other == other) = true := beq_self_eq_true other
        rw [hhere]
        dsimp only
        split <;> rfl
      · have helsewhere : (other == key) = false := beq_false_of_ne hkey
        rw [helsewhere]

/-- A piece changes the values that are supplied and nothing else. -/
theorem take_cases (p : Continuation) (column : Nat) (piece : Value) :
    ∃ values, p.take column piece = { p with values := values } ∧
      values.lookup column = Value.collect (p.values.lookup column) piece ∧
      ∀ other, other ≠ column → values.lookup other = p.values.lookup other := by
  unfold take put
  cases hbefore : p.values.lookup column with
  | none =>
      refine ⟨_, rfl, ?_, fun other hother => ?_⟩
      · rw [List.lookup_append, hbefore]
        simp [Value.collect]
      · have helsewhere : (other == column) = false := beq_false_of_ne hother
        rw [List.lookup_append, List.lookup_cons, helsewhere]
        exact Option.or_none
  | some whole =>
      dsimp only
      cases hgrown : whole.append? piece with
      | none =>
          refine ⟨p.values, rfl, ?_, fun _ _ => rfl⟩
          rw [hbefore, Value.collect, hgrown]
          rfl
      | some grown =>
          refine ⟨_, rfl, ?_, fun other hother => ?_⟩
          · rw [lookup_replaced, if_pos rfl, hbefore, Value.collect, hgrown]
            rfl
          · rw [lookup_replaced, if_neg hother]

/-- The pieces that are offered for a column, one after another. -/
def takeAll (p : Continuation) (column : Nat) (pieces : List Value) : Continuation :=
  pieces.foldl (fun p piece => p.take column piece) p

theorem takeAll_cases (p : Continuation) (column : Nat) (pieces : List Value) :
    ∃ values, p.takeAll column pieces = { p with values := values } ∧
      values.lookup column = pieces.foldl Value.collect (p.values.lookup column) ∧
      ∀ other, other ≠ column → values.lookup other = p.values.lookup other := by
  induction pieces generalizing p with
  | nil => exact ⟨p.values, rfl, rfl, fun _ _ => rfl⟩
  | cons piece pieces ih =>
      obtain ⟨first, hfirst, hcolumn, hothers⟩ := p.take_cases column piece
      obtain ⟨values, hvalues, hcolumn', hothers'⟩ := ih (p.take column piece)
      rw [hfirst] at hvalues hcolumn' hothers'
      refine ⟨values, ?_, ?_, fun other hother => ?_⟩
      · change (p.take column piece).takeAll column pieces = _
        rw [hfirst, hvalues]
      · rw [hcolumn', List.foldl_cons]
        exact congrArg (List.foldl Value.collect · pieces) hcolumn
      · exact (hothers' other hother).trans (hothers other hother)

end Continuation

/-! ## Operations that ran -/

theorem ReturnCode.ofRows_ne_needData (succeeded failed : Nat) (warned : Bool) :
    ofRows succeeded failed warned ≠ .needData := by
  unfold ofRows
  repeat' split
  all_goals exact ReturnCode.noConfusion

/-- An operation that was carried out waits for no value. -/
theorem OperationOutcome.returnCode_ofReports (reports : List RowReport) :
    (ofReports reports).returnCode ≠ .needData :=
  ReturnCode.ofRows_ne_needData _ _ _

namespace Work

open OperationOutcome (returnCode_ofReports)

variable {σ : Type} {w w' : Work σ} {o : OperationOutcome}

theorem returnCode_addRows {supplied : Supplied} {rows : List Nat}
    (h : w.addRows supplied rows = (.ok o, w')) : o.returnCode ≠ .needData := by
  unfold addRows at h
  split at h
  · cases h
  · cases h
    exact returnCode_ofReports _

theorem returnCode_writeByBookmark {rows : List Nat}
    {f : KeySet → Work σ → SlotId → Nat → RowResult × Work σ}
    (h : w.writeByBookmark rows f = (.ok o, w')) : o.returnCode ≠ .needData := by
  unfold writeByBookmark at h
  split at h
  · cases h
  · cases h
    exact returnCode_ofReports _

/-- No operation on the rowset ends in waiting once the cursor carries it out. -/
theorem returnCode_setPosition {row : Nat} {operation : RowOperation} {supplied : Supplied}
    (h : w.setPosition row operation supplied = (.ok o, w')) : o.returnCode ≠ .needData := by
  unfold setPosition at h
  cases operation with
  | position =>
      cases h
      exact ReturnCode.noConfusion
  | refresh =>
      cases h
      exact returnCode_ofReports _
  | update =>
      dsimp only [updateRows] at h
      split at h
      · cases h
      · split at h
        · cases h
        · cases h
          exact returnCode_ofReports _
  | delete =>
      dsimp only [deleteRows] at h
      split at h
      · cases h
      · cases h
        exact returnCode_ofReports _
  | add => exact returnCode_addRows h

theorem returnCode_bulk {operation : BulkOperation} {supplied : Supplied}
    (h : w.bulk operation supplied = (.ok o, w')) : o.returnCode ≠ .needData := by
  unfold bulk at h
  split at h
  · cases h
  · cases operation with
    | add => exact returnCode_addRows h
    | updateByBookmark | deleteByBookmark =>
        dsimp only [overBookmarks] at h
        split at h
        · cases h
        · exact returnCode_writeByBookmark h
    | fetchByBookmark =>
        dsimp only [overBookmarks] at h
        split at h
        · cases h
        · cases h
          exact returnCode_ofReports _

theorem currentTarget_rebound (columns : List (Option (List BoundValue))) (w : Work σ) :
    (w.rebound columns).currentTarget =
      (w.currentTarget.1, w.currentTarget.2.rebound columns) := by
  have hcursor : (w.rebound columns).cursor = w.cursor := rfl
  unfold currentTarget
  rw [hcursor]
  cases w.cursor.currentImage? with
  | none => rfl
  | some image =>
      dsimp only
      rw [keySet_rebound]
      rcases w.keySet with ⟨_ | _, _⟩ <;> rfl

end Work

namespace Session

variable {σ : Type} {s t : Session σ} {c : Cursor} {operation : Operation} {p : Continuation}

theorem returnCode_run {supplied : Supplied} {o : OperationOutcome}
    (h : s.run operation supplied = (.ok o, t)) : o.returnCode ≠ .needData := by
  unfold run withCursor at h
  split at h
  · cases h
  next c hc =>
    cases operation with
    | setPosition row operation =>
        dsimp only at h
        split at h
        · cases h
        next hanswer =>
          cases h
          exact Work.returnCode_setPosition hanswer
    | bulk operation =>
        dsimp only at h
        split at h
        · cases h
        next hanswer =>
          cases h
          exact Work.returnCode_bulk hanswer

/-- The session while an operation waits. -/
def waiting (s : Session σ) (p : Continuation) : Session σ :=
  s.onStatement fun t => { t with pending := some p }

/-- The session when what was waited for is there. -/
def resumed (s : Session σ) : Session σ :=
  s.onStatement fun t => { t with pending := none, diagnostics := [] }

/-- The calls that supply a value for each column in turn, given the pieces of each. -/
def supplying (offers : List (List Value)) : List StatementCall :=
  offers.flatMap fun pieces => .paramData :: pieces.map .putData

theorem performAll_append (s : Session σ) (calls more : List StatementCall) :
    s.performAll (calls ++ more) = (s.performAll calls).performAll more :=
  List.foldl_append

/-- A piece is taken for the column that is being supplied. -/
theorem putData_waiting {column : Nat} (hcolumn : p.column? = some column) (piece : Value) :
    ((s.waiting p).putData piece).2 = s.waiting (p.take column piece) := by
  have hpending : (s.waiting p).statement.pending = some p := rfl
  unfold putData Continuation.take
  rw [hpending]
  dsimp only
  rw [hcolumn]
  dsimp only
  cases p.put column piece <;> rfl

/-- Pieces are taken one after the other. -/
theorem performAll_putData {column : Nat} (hcolumn : p.column? = some column)
    (pieces : List Value) :
    (s.waiting p).performAll (pieces.map .putData) = s.waiting (p.takeAll column pieces) := by
  induction pieces generalizing p with
  | nil => rfl
  | cons piece pieces ih =>
      obtain ⟨values, hvalues, -, -⟩ := p.take_cases column piece
      have hcolumn' : (p.take column piece).column? = some column := by
        rw [hvalues]
        exact hcolumn
      have hrest := ih hcolumn'
      rw [← putData_waiting hcolumn] at hrest
      exact hrest

/-- While columns are left, the next of them is asked for. -/
theorem paramData_waiting {column : Nat} (hcolumn : p.columns[p.next]? = some column) :
    (s.waiting p).paramData =
      (.ok (.need column), s.waiting { p with current := some p.next }) := by
  have hpending : (s.waiting p).statement.pending = some p := rfl
  unfold paramData
  rw [hpending]
  dsimp only
  rw [hcolumn]
  rfl

/-- When no column is left, the operation is carried out. -/
theorem paramData_waiting_last (hlast : p.columns[p.next]? = none) :
    (s.waiting p).paramData =
      ((s.resumed.run p.operation p.supplied).1.map .done,
        (s.resumed.run p.operation p.supplied).2) := by
  have hpending : (s.waiting p).statement.pending = some p := rfl
  have hresumed :
      ((s.waiting p).onStatement fun t => { t with pending := none, diagnostics := [] }) =
        s.resumed := rfl
  unfold paramData
  rw [hpending]
  dsimp only
  rw [hlast]
  dsimp only
  rw [hresumed]
  generalize s.resumed.run p.operation p.supplied = ran
  obtain ⟨result, after⟩ := ran
  cases result <;> rfl

/-- Every column has collected the pieces that were offered for it. -/
theorem performAll_supplying (offers : List (List Value))
    (hfits : p.next + offers.length ≤ p.columns.length) (hnodup : p.columns.Nodup) :
    ∃ q : Continuation, (s.waiting p).performAll (supplying offers) = s.waiting q ∧
      q.operation = p.operation ∧ q.columns = p.columns ∧ q.next = p.next + offers.length ∧
      ∀ i column, p.columns[i]? = some column →
        q.values.lookup column =
          if i < p.next then p.values.lookup column
          else (offers[i - p.next]?.getD []).foldl Value.collect (p.values.lookup column) := by
  induction offers generalizing p with
  | nil => exact ⟨p, rfl, rfl, rfl, rfl, fun i column _ => by simp⟩
  | cons pieces offers ih =>
      rw [List.length_cons] at hfits
      obtain ⟨asked, hasked⟩ : ∃ column, p.columns[p.next]? = some column :=
        ⟨_, List.getElem?_eq_getElem (by omega)⟩
      obtain ⟨values, hvalues, hcolumn, hothers⟩ :=
        Continuation.takeAll_cases { p with current := some p.next } asked pieces
      have htaken : (s.waiting p).performAll (.paramData :: pieces.map .putData) =
          s.waiting { p with current := some p.next, values := values } := by
        change ((s.waiting p).paramData.2).performAll (pieces.map .putData) = _
        rw [paramData_waiting hasked,
          performAll_putData (p := { p with current := some p.next }) hasked, hvalues]
      obtain ⟨q, hq, hoperation, hcolumns, hnext, hlookup⟩ :=
        ih (p := { p with current := some p.next, values := values })
          (show p.next + 1 + offers.length ≤ p.columns.length by omega) hnodup
      change q.next = p.next + 1 + offers.length at hnext
      refine ⟨q, ?_, hoperation, hcolumns, by rw [List.length_cons]; omega, fun i column hi => ?_⟩
      · rw [supplying, List.flatMap_cons, performAll_append, htaken]
        exact hq
      · have hcollected : q.values.lookup column =
            if i < p.next + 1 then values.lookup column
            else (offers[i - (p.next + 1)]?.getD []).foldl Value.collect (values.lookup column) :=
          hlookup i column hi
        rw [hcollected]
        -- The columns differ from each other, so the pieces for one leave the others alone.
        have hother (hne : i ≠ p.next) : values.lookup column = p.values.lookup column := by
          refine hothers column fun heq => hne ?_
          have hsame : p.columns[i]? = p.columns[p.next]? := by rw [hi, hasked, heq]
          exact (List.getElem?_inj (List.getElem?_eq_some_iff.mp hi).1 hnodup).mp hsame
        rcases Nat.lt_trichotomy i p.next with hlt | rfl | hgt
        · rw [if_pos (Nat.lt_succ_of_lt hlt), if_pos hlt, hother (Nat.ne_of_lt hlt)]
        · rw [if_pos (Nat.lt_succ_self _), if_neg (Nat.lt_irrefl _), Nat.sub_self]
          cases hi.symm.trans hasked
          exact hcolumn
        · have hindex : i - p.next = i - (p.next + 1) + 1 := by omega
          rw [if_neg (by omega), if_neg (by omega), hother (Nat.ne_of_gt hgt), hindex,
            List.getElem?_cons_succ]

/-- Once all columns have had their turn the operation is given the concatenations. -/
theorem performAll_supplying_all (s : Session σ) (operation : Operation) {columns : List Nat}
    {offers : List (List Value)} (hoffers : offers.length = columns.length)
    (hnodup : columns.Nodup) :
    ((s.waiting { operation := operation, columns := columns }).performAll
        (supplying offers)).paramData =
      ((s.resumed.run operation (columns.zip (offers.map Value.joined))).1.map .done,
        (s.resumed.run operation (columns.zip (offers.map Value.joined))).2) := by
  obtain ⟨q, hq, hoperation, hcolumns, hnext, hlookup⟩ :=
    performAll_supplying (s := s) (p := { operation := operation, columns := columns }) offers
      (by rw [hoffers]; exact Nat.le_of_eq (Nat.zero_add _)) hnodup
  have hsupplied : q.supplied = columns.zip (offers.map Value.joined) := by
    rw [Continuation.supplied, hcolumns]
    refine List.ext_getElem (by simp [hoffers]) fun i hi hi' => ?_
    rw [List.length_map] at hi
    have hcollected : q.values.lookup columns[i] =
        (offers[i]?.getD []).foldl Value.collect none :=
      hlookup i _ (List.getElem?_eq_getElem hi)
    have hoffered : i < offers.length := hoffers ▸ hi
    have hoffer : offers[i]? = some offers[i] := List.getElem?_eq_getElem hoffered
    rw [List.getElem_map, List.getElem_zip, List.getElem_map, hcollected, hoffer,
      ← Value.getD_foldl_collect]
    rfl
  have hlast : q.columns[q.next]? = none := by
    rw [hnext, hcolumns, hoffers, List.getElem?_eq_none_iff]
    exact Nat.le_add_left _ _
  rw [hq, paramData_waiting_last hlast, hsupplied, hoperation]

/-! ## The same values bound from the start -/

/-- The same session with other arrays bound to the columns. -/
def rebound (columns : List (Option (List BoundValue))) (s : Session σ) : Session σ :=
  s.onStatement fun t => { t with bindings := { t.bindings with columns := columns } }

variable {columns : List (Option (List BoundValue))} {supplied : Supplied}

theorem publishCursor_rebound (s : Session σ) :
    (s.rebound columns).publishCursor = s.publishCursor.rebound columns := by
  have hcursor : (s.rebound columns).statement.cursor = s.statement.cursor := rfl
  have hwork (c : Cursor) : (s.rebound columns).work c = (s.work c).rebound columns := rfl
  unfold publishCursor
  rw [hcursor]
  cases s.statement.cursor with
  | none => rfl
  | some c =>
      dsimp only
      rw [hwork, Work.currentTarget_rebound]
      rfl

/-- What is published does not depend on bound values. -/
theorem publishNamed_rebound (s : Session σ) :
    (s.rebound columns).publishNamed = s.publishNamed.rebound columns := by
  unfold publishNamed
  rw [show (s.rebound columns).statement.named = s.statement.named from rfl]
  split
  · exact s.publishCursor_rebound
  · rfl

/-- What the statement makes of the answer of its cursor. -/
def answered (s : Session σ) (operation : Operation)
    (answer : Except Error OperationOutcome × Work σ) :
    Except Error OperationOutcome × Session σ :=
  match answer with
  | (.error e, w) => (.error e, s.afterWork w)
  | (.ok outcome, w) =>
      (.ok outcome,
        (if operation.writes then
          (s.afterWork w).onStatement fun t => { t with rowCount := some outcome.affectedRows }
        else s.afterWork w).publishNamed)

/-- An operation on the rowset is the cursor's own. -/
theorem run_setPosition (hc : s.statement.cursor = some c) (row : Nat) (operation : RowOperation)
    (supplied : Supplied) :
    s.run (.setPosition row operation) supplied =
      s.answered (.setPosition row operation) ((s.work c).setPosition row operation supplied) := by
  rw [run, withCursor, hc]
  rfl

theorem run_bulk (hc : s.statement.cursor = some c) (operation : BulkOperation)
    (supplied : Supplied) :
    s.run (.bulk operation) supplied =
      s.answered (.bulk operation) ((s.work c).bulk operation supplied) := by
  rw [run, withCursor, hc]
  rfl

/-- An answer is taken the same, whatever is bound. -/
theorem answered_rebound (s : Session σ) (operation : Operation)
    (answer : Except Error OperationOutcome × Work σ) :
    (s.rebound columns).answered operation (answer.1, answer.2.rebound columns) =
      ((s.answered operation answer).1, (s.answered operation answer).2.rebound columns) := by
  obtain ⟨result, w⟩ := answer
  cases result with
  | error e => rfl
  | ok outcome =>
      unfold answered
      dsimp only
      rw [← publishNamed_rebound]
      split <;> rfl

/-- A call on one row takes its values from that row of the arrays. -/
theorem boundRows_setPosition {number first : Nat} {operation : RowOperation}
    (htakes : operation.takesValues = true)
    (h : boundRows c (.setPosition number operation) = (first, 1)) :
    (number = first + 1 ∨ number = 0) ∧
      ∀ w : Work σ, w.cursor = c → w.targetRows number operation = [first + 1] := by
  cases number with
  | succ n =>
      obtain ⟨rfl, -⟩ := Prod.mk.inj h
      exact ⟨Or.inl rfl, fun w _ => rfl⟩
  | zero =>
      refine ⟨Or.inr rfl, fun w hw => ?_⟩
      subst hw
      cases operation with
      | position | refresh | delete => cases htakes
      | update =>
          obtain ⟨rfl, hlength⟩ := Prod.mk.inj h
          change List.range' 1 w.cursor.rowset.length = [1]
          rw [hlength]
          rfl
      | add =>
          obtain ⟨rfl, hsize⟩ := Prod.mk.inj h
          change List.range' 1 w.cursor.size = [1]
          rw [hsize]
          rfl

/-- An operation on one row whose values are bound runs like the one to which they are supplied. -/
theorem run_rebound {first : Nat} (hc : s.statement.cursor = some c)
    (htakes : operation.takesValues = true) (hrows : boundRows c operation = (first, 1))
    (h : (s.work c).SameAssignments columns supplied first) :
    (s.rebound columns).run operation [] =
      ((s.run operation supplied).1, (s.run operation supplied).2.rebound columns) := by
  have hc' : (s.rebound columns).statement.cursor = some c := hc
  have hwork : (s.rebound columns).work c = (s.work c).rebound columns := rfl
  cases operation with
  | setPosition number operation =>
      obtain ⟨hnumber, htarget⟩ := boundRows_setPosition htakes hrows
      rw [run_setPosition hc', run_setPosition hc, ← answered_rebound, hwork]
      congr 1
      exact Work.setPosition_rebound htakes (htarget (s.work c) rfl) hnumber h
  | bulk operation =>
      rw [run_bulk hc', run_bulk hc, ← answered_rebound, hwork]
      congr 1
      obtain ⟨rfl, hsize⟩ := Prod.mk.inj hrows
      exact Work.bulk_rebound htakes hsize h

/-! ## Waiting for values -/

variable {b : Bindings}

/-- An operation waits for values of a single row. -/
theorem awaited_eq_ok {awaits : List Nat} (h : awaited b c operation = .ok awaits)
    (hsome : awaits ≠ []) :
    operation.takesValues = true ∧
      ∃ first, boundRows c operation = (first, 1) ∧ awaits = b.dataAtExecColumns first := by
  unfold awaited at h
  split at h
  · cases h
    exact absurd rfl hsome
  next htakes =>
    generalize hrows : boundRows c operation = rows at h
    obtain ⟨first, count⟩ := rows
    dsimp only at h
    split at h
    · cases h
      exact absurd rfl hsome
    next hwaits =>
      split at h
      · cases h
      next hcount =>
        cases h
        refine ⟨by simpa using htakes, first, ?_, rfl⟩
        rcases count with _ | _ | count
        · exact absurd rfl hwaits
        · rfl
        · exact absurd (Nat.le_add_left 2 count) hcount

/-- No value is awaited if each one is bound. -/
theorem awaited_of_bound {first : Nat} (hrows : boundRows c operation = (first, 1))
    (h : b.dataAtExecColumns first = []) : awaited b c operation = .ok [] := by
  unfold awaited
  split
  · rfl
  · rw [hrows]
    dsimp only
    rw [if_pos]
    simp [h]

/-- No column is awaited twice. -/
theorem nodup_dataAtExecColumns (b : Bindings) (row : Nat) : (b.dataAtExecColumns row).Nodup :=
  List.nodup_range.filter _

/-- Values for all the columns that a row waits for. -/
theorem answers_zip {row : Nat} {values : List Value}
    (h : values.length = (b.dataAtExecColumns row).length) :
    b.Answers row ((b.dataAtExecColumns row).zip values) := by
  intro ordinal
  rw [← Bindings.mem_dataAtExecColumns, List.lookup_isSome_iff]
  have hcolumns : ((b.dataAtExecColumns row).zip values).map Prod.fst = b.dataAtExecColumns row :=
    List.map_fst_zip (Nat.le_of_eq h.symm)
  constructor
  · rintro ⟨entry, hentry, hordinal⟩
    rw [eq_of_beq hordinal, ← hcolumns]
    exact List.mem_map_of_mem hentry
  · intro hmem
    rw [← hcolumns] at hmem
    obtain ⟨entry, hentry, rfl⟩ := List.mem_map.mp hmem
    exact ⟨entry, hentry, beq_self_eq_true _⟩

/-- An operation that waits has been remembered with its columns, and nothing else was done. -/
theorem runOrWait_needData {o : OperationOutcome} (h : s.runOrWait c operation = (.ok o, t))
    (hwaits : o.returnCode = .needData) :
    operation.takesValues = true ∧
      ∃ first, boundRows c operation = (first, 1) ∧
        t = s.waiting
          { operation := operation, columns := s.statement.bindings.dataAtExecColumns first } := by
  unfold runOrWait at h
  split at h
  · cases h
  · exact absurd hwaits (returnCode_run h)
  next columns hsome hawaited =>
    obtain ⟨htakes, first, hrows, hcolumns⟩ :=
      awaited_eq_ok hawaited fun hnone => hsome hnone
    cases h
    refine ⟨htakes, first, hrows, ?_⟩
    rw [← hcolumns]
    rfl

/-- With its values bound the operation runs at once, as it does when they have been supplied. -/
theorem runOrWait_bound {first : Nat} (hc : s.statement.cursor = some c)
    (htakes : operation.takesValues = true) (hrows : boundRows c operation = (first, 1))
    (hanswers : s.statement.bindings.Answers first supplied) :
    (s.rebound (s.statement.bindings.withValues first supplied).columns).runOrWait c operation =
      ((s.run operation supplied).1,
        (s.run operation supplied).2.rebound
          (s.statement.bindings.withValues first supplied).columns) := by
  have hnone : awaited (s.statement.bindings.withValues first supplied) c operation = .ok [] :=
    awaited_of_bound hrows (Bindings.dataAtExecColumns_withValues hanswers)
  have hbound :
      (s.rebound (s.statement.bindings.withValues first supplied).columns).statement.bindings =
        s.statement.bindings.withValues first supplied := rfl
  unfold runOrWait
  rw [hbound, hnone]
  exact run_rebound hc htakes hrows fun d table => Bindings.assignments_withValues hanswers d table

end Session

namespace StatementCall

/-- The row of the bound arrays that a call on one row takes its values from. -/
def boundRow : StatementCall → Nat
  | .setPosition row _ _ => row - 1
  | _ => 0

end StatementCall

namespace Session

variable {σ : Type} {s t : Session σ} {call : StatementCall} {o : OperationOutcome}

/-- The session with the values bound in a row of the arrays that some pieces make up, for the
columns that wait for one. -/
def withOffered (s : Session σ) (row : Nat) (offers : List (List Value)) : Session σ :=
  s.rebound (s.statement.bindings.withValues row
    ((s.statement.bindings.dataAtExecColumns row).zip (offers.map Value.joined))).columns

theorem replying_eq_ok {α : Type} {f : α → Reply} {result : Except Error α × Session σ}
    {reply : Reply} (h : replying f result = (.ok reply, t)) :
    ∃ a, result = (.ok a, t) ∧ f a = reply := by
  obtain ⟨answer, after⟩ := result
  cases answer with
  | error e => cases h
  | ok a =>
      cases h
      exact ⟨a, rfl, rfl⟩

/-- A call that is not refused begins without records and with nothing pending. -/
theorem call_eq_ok {α : Type} {f : Session σ → Except Error α × Session σ} {a : α}
    (h : s.call f = (.ok a, t)) :
    f s.resumed = (.ok a, t) ∧
      ∀ columns, (s.rebound columns).call f = f (s.resumed.rebound columns) := by
  unfold call at h
  split at h
  · cases h
  next hpending =>
    obtain ⟨⟨id, options, bindings, cursor, diagnostics, rowCount, pending, named⟩, config, names,
      link⟩ := s
    cases pending with
    | some p => exact absurd rfl hpending
    | none => exact ⟨h, fun columns => rfl⟩

/-- A call that goes through has found its cursor. -/
theorem withCursor_eq_ok {α : Type} {f : Cursor → Session σ → Except Error α × Session σ} {a : α}
    (h : s.withCursor f = (.ok a, t)) :
    ∃ c, s.statement.cursor = some c ∧ f c s = (.ok a, t) ∧
      ∀ columns, (s.rebound columns).withCursor f = f c (s.rebound columns) := by
  unfold withCursor at h
  split at h
  · cases h
  next c hc =>
    refine ⟨c, hc, h, fun columns => ?_⟩
    have hc' : (s.rebound columns).statement.cursor = some c := hc
    rw [withCursor, hc']

/-- A call that waits for values is a positioned operation on the open cursor. -/
theorem perform_needData (h : s.perform call = (.ok (.operated o), t))
    (hwaits : o.returnCode = .needData) :
    ∃ c operation, s.resumed.statement.cursor = some c ∧ operation.takesValues = true ∧
      boundRows c operation = (call.boundRow, 1) ∧
      t = s.resumed.waiting
        { operation := operation
          columns := s.statement.bindings.dataAtExecColumns call.boundRow } ∧
      ∀ columns, (s.rebound columns).perform call =
        replying .operated ((s.resumed.rebound columns).runOrWait c operation) := by
  cases call with
  | setOptions | bindColumn | bindBookmarks | unbindAll | execute | fetch | getBookmark | paramData
  | putData | closeCursor | setCursorName =>
      obtain ⟨a, -, hreply⟩ := replying_eq_ok h
      cases hreply
  | cursorName => cases h
  | setPosition row operation lock =>
      obtain ⟨a, hcall, hreply⟩ := replying_eq_ok h
      cases hreply
      obtain ⟨hbegun, hcall'⟩ := call_eq_ok hcall
      obtain ⟨c, hc, hran, hbegun'⟩ := withCursor_eq_ok hbegun
      split at hran
      · cases hran
      next hvalid =>
        obtain ⟨htakes, first, hrows, rfl⟩ := runOrWait_needData hran hwaits
        have hfirst : first = row - 1 := by
          cases row with
          | succ n => exact (Prod.mk.inj hrows).1.symm
          | zero => cases operation <;> exact (Prod.mk.inj hrows).1.symm
        subst hfirst
        refine ⟨c, .setPosition row operation, hc, htakes, hrows, rfl, fun columns => ?_⟩
        change replying _ ((s.rebound columns).setPosition row operation lock) = _
        rw [setPosition, hcall', hbegun', hvalid]
  | bulkOperation operation =>
      obtain ⟨a, hcall, hreply⟩ := replying_eq_ok h
      cases hreply
      obtain ⟨hbegun, hcall'⟩ := call_eq_ok hcall
      obtain ⟨c, hc, hran, hbegun'⟩ := withCursor_eq_ok hbegun
      obtain ⟨htakes, first, hrows, rfl⟩ := runOrWait_needData hran hwaits
      obtain ⟨rfl, -⟩ := Prod.mk.inj hrows
      refine ⟨c, .bulk operation, hc, htakes, hrows, rfl, fun columns => ?_⟩
      change replying _ ((s.rebound columns).bulkOperation operation) = _
      rw [bulkOperation, hcall', hbegun']

/-- A piece that is refused changes nothing. -/
theorem putData_error {piece : Value} {e : Error} (h : (s.putData piece).1 = .error e) :
    (s.putData piece).2 = s := by
  unfold putData at h ⊢
  split
  · rfl
  next p hp =>
    rw [hp] at h
    dsimp only at h ⊢
    split
    · rfl
    next column hcolumn =>
      rw [hcolumn] at h
      dsimp only at h
      split
      · rfl
      next hput =>
        rw [hput] at h
        cases h

/-- A call on one row that waits for values, and is given them in whatever pieces, ends as the same
call ends at once if the concatenations of the pieces are bound: with the same result, and with
everything but the bound arrays as it is then. So it makes no difference how the values are cut.
A piece that is refused changes nothing. -/
theorem paramData_of_supplied (h : s.perform call = (.ok (.operated o), t))
    (hwaits : o.returnCode = .needData) {offers : List (List Value)}
    (hoffers : offers.length = (s.statement.bindings.dataAtExecColumns call.boundRow).length) :
    (∃ (result : Except Error OperationOutcome) (after : Session σ),
      (t.performAll (supplying offers)).perform .paramData =
        (result.map fun outcome => .data (.done outcome), after) ∧
      (s.withOffered call.boundRow offers).perform call =
        (result.map .operated,
          after.rebound (s.withOffered call.boundRow offers).statement.bindings.columns)) ∧
      (∀ offers' : List (List Value), offers'.map Value.joined = offers.map Value.joined →
        (t.performAll (supplying offers')).perform .paramData =
          (t.performAll (supplying offers)).perform .paramData) ∧
      ∀ (u : Session σ) (piece : Value) (e : Error),
        (u.putData piece).1 = .error e → (u.putData piece).2 = u := by
  obtain ⟨c, operation, hc, htakes, hrows, rfl, hperform⟩ := perform_needData h hwaits
  have hnodup := nodup_dataAtExecColumns s.statement.bindings call.boundRow
  have hsupplied (pieces : List (List Value))
      (hpieces : pieces.length =
        (s.statement.bindings.dataAtExecColumns call.boundRow).length) :
      ((s.resumed.waiting { operation := operation, columns := _ }).performAll
          (supplying pieces)).perform .paramData = _ :=
    congrArg (replying .data)
      (s.resumed.performAll_supplying_all operation hpieces hnodup)
  have hanswers : s.statement.bindings.Answers call.boundRow
      ((s.statement.bindings.dataAtExecColumns call.boundRow).zip (offers.map Value.joined)) :=
    answers_zip (by rw [List.length_map, hoffers])
  obtain ⟨⟨result, after⟩, hran⟩ : ∃ ran, s.resumed.run operation
      ((s.statement.bindings.dataAtExecColumns call.boundRow).zip (offers.map Value.joined)) =
        ran := ⟨_, rfl⟩
  have hbound := runOrWait_bound hc htakes hrows hanswers
  refine ⟨⟨result, after, ?_, ?_⟩, ?_, fun u piece e => putData_error⟩
  · rw [hsupplied offers hoffers]
    change replying Reply.data ((s.resumed.run operation _).1.map DataRequest.done,
      (s.resumed.run operation _).2) = _
    rw [hran]
    cases result <;> rfl
  · rw [hran] at hbound
    rw [withOffered, hperform]
    exact congrArg (replying Reply.operated) hbound
  · intro offers' hjoined
    have hlength : offers'.length = offers.length := by
      rw [← List.length_map (f := Value.joined), hjoined, List.length_map]
    rw [hsupplied offers hoffers, hsupplied offers' (hlength.trans hoffers), hjoined]

/-! ## A text in two pieces -/

def notes : TableRef := ⟨none, "notes"⟩

/-- A server with one note. -/
def noteServer : MemoryServer where
  tables := [{ ref := notes, columns := ["id", "text"], rows := [[.integer 1, .string "today"]] }]
  results :=
    [{ sql := "SELECT id, text FROM notes"
       descriptor :=
        [{ name := "id", sqlType := .integer, table := some notes },
          { name := "text", sqlType := .varchar, table := some notes }]
       source := .table notes }]
  metadata :=
    [(notes,
      .ok { table := notes, columns := [⟨"id", .integer, false⟩, ⟨"text", .varchar, true⟩],
            primaryKey := ["id"] })]

/-- The note has been fetched, and its new text will be supplied. -/
def beforeUpdate : Session MemoryServer :=
  Session.performAll
    { statement := { id := 1, options := { cursorKind := .static } }
      config := {}
      names := {}
      link := { server := MemoryServer.server, state := noteServer } }
    [.execute "SELECT id, text FROM notes" [], .fetch .next, .bindColumn 1 [.dataAtExec]]

/-- The note is to be updated. -/
def updateWaits : Session MemoryServer :=
  (beforeUpdate.perform (.setPosition 1 .update .noChange)).2

/-- The text comes in two pieces, the second of which is preceded by a number that is refused. -/
theorem paramData_of_supplied_note :
    beforeUpdate.perform (.setPosition 1 .update .noChange) =
        (.ok (.operated .needData), updateWaits) ∧
      ((updateWaits.performAll (supplying [[.string "tomo", .integer 7, .string "rrow"]])).perform
          .paramData).2.link.state.tables.map MemoryTable.rows =
        [[[.integer 1, .string "tomorrow"]]] ∧
      ∃ (result : Except Error OperationOutcome) (after : Session MemoryServer),
        (updateWaits.performAll
            (supplying [[.string "tomo", .integer 7, .string "rrow"]])).perform .paramData =
          (result.map fun outcome => .data (.done outcome), after) ∧
        (beforeUpdate.withOffered 0 [[.string "tomo", .integer 7, .string "rrow"]]).perform
            (.setPosition 1 .update .noChange) =
          (result.map .operated, after.rebound [none, some [.value (.string "tomorrow")]]) := by
  have hwaits : beforeUpdate.perform (.setPosition 1 .update .noChange) =
      (.ok (.operated .needData), updateWaits) := rfl
  have hcolumns : [[Value.string "tomo", .integer 7, .string "rrow"]].length =
      (beforeUpdate.statement.bindings.dataAtExecColumns 0).length := rfl
  obtain ⟨result, after, hsupplied, hbound⟩ := (paramData_of_supplied hwaits rfl hcolumns).1
  exact ⟨hwaits, rfl, result, after, hsupplied, hbound⟩

end Session

end ScrollCursor
