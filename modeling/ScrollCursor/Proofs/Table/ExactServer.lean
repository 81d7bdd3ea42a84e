import ScrollCursor.Proofs.Table.Places
import ScrollCursor.Server
import ScrollCursor.WriteBack.Fragment

/-! # Servers that carry out plans exactly

What is relied upon of a server that nobody else writes to. It changes the rows that have the
values of all terms of a plan, or refuses the plan and changes nothing. It keeps what the metadata
says is unique.
-/

namespace ScrollCursor

namespace TableMetadata

/-- The columns in which no two rows are equal: the primary key and the unique indexes. -/
def uniqueColumns (m : TableMetadata) : List (List String) :=
  (m.primaryKey :: m.uniqueIndexes.map UniqueIndex.columns).filter fun names => !names.isEmpty

end TableMetadata

/-- A server that has a table, with the laws of its answers. -/
structure ExactServer (σ : Type) where
  server : Server σ
  ref : TableRef
  metadata : TableMetadata
  agrees : Agreement
  /-- The rows of the table in a state of the server. -/
  table : σ → Places
  /-- A value that can be written in a statement equals itself. -/
  agrees_self : ∀ (name : String) (value : Value) (dialect : Dialect) (type : SqlType)
    (text : Fragment), value.isNull = false → dialect.value value type = .ok text →
      agrees name value value = true
  table_metadata : ∀ ref s, table (server.metadata ref s).2 = table s
  /-- The server may fail to tell about its table, but tells nothing wrong. -/
  metadata_eq : ∀ s answer, (server.metadata ref s).1 = .ok answer → answer = some metadata
  table_refused : ∀ request s e, (server.execute request s).1 = .error e →
    table (server.execute request s).2 = table s
  updated : ∀ request s values terms answer, request.plan = some (.update ref values terms) →
    (server.execute request s).1 = .ok answer →
      answer.affected = ((table s).matching agrees terms).length ∧
        table (server.execute request s).2 = (table s).update agrees values terms
  deleted : ∀ request s terms answer, request.plan = some (.delete ref terms) →
    (server.execute request s).1 = .ok answer →
      answer.affected = ((table s).matching agrees terms).length ∧
        table (server.execute request s).2 = (table s).delete agrees terms
  distinct : ∀ request s names, names ∈ metadata.uniqueColumns →
    (table s).Distinct agrees names → (table (server.execute request s).2).Distinct agrees names

/-! ## Records of writes -/

/-- A statement that reached a server in a state, with its answer. -/
structure SentWrite (σ : Type) where
  state : σ
  request : Request
  answer : Except Error WriteAnswer

namespace Server

variable {σ : Type} (server : Server σ)

/-- The state of the server after one thing was asked of it. -/
def after (s : σ) : Event → σ
  | .query request => (server.query request s).2
  | .execute request => (server.execute request s).2
  | .metadata table => (server.metadata table s).2
  | .pull => s

/-- The statements among some events. -/
def sentWrites (s : σ) : List Event → List (SentWrite σ)
  | [] => []
  | .execute request :: rest =>
      ⟨s, request, (server.execute request s).1⟩ ::
        sentWrites (server.after s (.execute request)) rest
  | event :: rest => sentWrites (server.after s event) rest

theorem sentWrites_append (s : σ) (first second : List Event) :
    server.sentWrites s (first ++ second) =
      server.sentWrites s first ++ server.sentWrites (first.foldl server.after s) second := by
  induction first generalizing s with
  | nil => rfl
  | cons event rest ih =>
      rw [List.cons_append, List.foldl_cons]
      cases event with
      | execute request => exact congrArg (List.cons _) (ih _)
      | query | metadata | pull => exact ih _

theorem sentWrites_pulls (s : σ) (count : Nat) :
    server.sentWrites s (List.replicate count .pull) = [] ∧
      (List.replicate count Event.pull).foldl server.after s = s := by
  induction count with
  | zero => exact ⟨rfl, rfl⟩
  | succ count ih => exact ih

end Server

namespace Link

variable {σ : Type} {l l₁ l₂ l₃ : Link σ}

/-- Between two states of a link just these statements went over it. -/
def Sent (l₁ l₂ : Link σ) (writes : List (SentWrite σ)) : Prop :=
  l₂.server = l₁.server ∧
    ∃ events, l₂.events = l₁.events ++ events ∧
      l₂.state = events.foldl l₁.server.after l₁.state ∧
      writes = l₁.server.sentWrites l₁.state events

theorem Sent.refl (l : Link σ) : l.Sent l [] :=
  ⟨rfl, [], (List.append_nil _).symm, rfl, rfl⟩

theorem Sent.append {first second : List (SentWrite σ)} (h₁ : l₁.Sent l₂ first)
    (h₂ : l₂.Sent l₃ second) : l₁.Sent l₃ (first ++ second) := by
  obtain ⟨hserver₁, events₁, hevents₁, hstate₁, rfl⟩ := h₁
  obtain ⟨hserver₂, events₂, hevents₂, hstate₂, rfl⟩ := h₂
  refine ⟨hserver₂.trans hserver₁, events₁ ++ events₂, ?_, ?_, ?_⟩
  · rw [hevents₂, hevents₁, List.append_assoc]
  · rw [hstate₂, hserver₁, hstate₁, List.foldl_append]
  · rw [Server.sentWrites_append, hserver₁, hstate₁]

/-- Of a statement that is executed the write is on record. -/
theorem sent_execute (l : Link σ) (request : Request) :
    l.Sent (l.execute request).2
      [⟨l.state, request, (l.server.execute request l.state).1⟩] :=
  ⟨rfl, [.execute request], rfl, rfl, rfl⟩

/-- What a known server answers, and the state that it is in afterwards. -/
theorem execute_of_server {server : Server σ} (h : l.server = server) (request : Request) :
    (l.execute request).1 = (server.execute request l.state).1 ∧
      (l.execute request).2.state = (server.execute request l.state).2 := by
  rw [← h]
  exact ⟨rfl, rfl⟩

theorem sent_metadata (l : Link σ) (table : TableRef) : l.Sent (l.metadata table).2 [] :=
  ⟨rfl, [.metadata table], rfl, rfl, rfl⟩

theorem sent_pulled (l : Link σ) (count : Nat) : l.Sent (l.pulled count) [] :=
  ⟨rfl, List.replicate count .pull, rfl, (l.server.sentWrites_pulls l.state count).2.symm,
    (l.server.sentWrites_pulls l.state count).1.symm⟩

end Link

namespace ExactServer

variable {σ : Type} (S : ExactServer σ)

/-- The terms that a request asks the rows of the table for. -/
def terms? (request : Request) : Option (List ColumnValue) :=
  match request.plan with
  | some (.update ref _ terms) => if ref = S.ref then some terms else none
  | some (.delete ref terms) => if ref = S.ref then some terms else none
  | _ => none

/-- A statement is for the row at one place and for no other. If it was carried out, it changed
one row; no other row changed in any case. -/
structure HitsOnly (place : Nat) (write : SentWrite σ) : Prop where
  matching : ∃ terms, S.terms? write.request = some terms ∧
    (S.table write.state).matching S.agrees terms = [place]
  affected : ∀ answer, write.answer = .ok answer → answer.affected = 1
  elsewhere : ∀ i, i ≠ place →
    (S.table (S.server.execute write.request write.state).2)[i]? = (S.table write.state)[i]?

end ExactServer

/-! ## A server with one table -/

namespace Places

/-- Equality of kind and text. -/
def sameText : Agreement :=
  fun _ a b => a.kind == b.kind && a.text == b.text

/-- The number of rows that a plan changes, and the table afterwards. -/
def perform (ref : TableRef) (t : Places) : Plan → Option (Nat × Places)
  | .update table values terms =>
      if table = ref then
        some ((t.matching sameText terms).length, t.update sameText values terms)
      else none
  | .delete table terms =>
      if table = ref then some ((t.matching sameText terms).length, t.delete sameText terms)
      else none
  | _ => none

def refused : Error :=
  .server 1062 "23000" "duplicate entry or no such table"

/-- A plan is carried out if the rows stay distinct. -/
def execute (ref : TableRef) (m : TableMetadata) (request : Request) (t : Places) :
    Except Error WriteAnswer × Places :=
  match request.plan.bind (t.perform ref) with
  | none => (.error refused, t)
  | some (affected, after) =>
      if ∀ names ∈ m.uniqueColumns, after.Distinct sameText names then
        (.ok { affected := affected }, after)
      else (.error refused, t)

variable {ref : TableRef} {m : TableMetadata} {request : Request} {t : Places}
  {answer : WriteAnswer}

/-- A request that is refused leaves the table. -/
theorem execute_error {e : Error} (h : (execute ref m request t).1 = .error e) :
    (execute ref m request t).2 = t := by
  unfold execute at h ⊢
  split at h
  · rfl
  · split at h
    · cases h
    next hdistinct => exact congrArg Prod.snd (if_neg hdistinct)

/-- A request that goes through has done what its plan says, and has kept what is to be unique. -/
theorem execute_ok (h : (execute ref m request t).1 = .ok answer) :
    request.plan.bind (t.perform ref) =
        some (answer.affected, (execute ref m request t).2) ∧
      ∀ names ∈ m.uniqueColumns, (execute ref m request t).2.Distinct sameText names := by
  unfold execute at h ⊢
  split at h
  · cases h
  next affected after hperform =>
    split at h
    next hdistinct =>
      cases h
      rw [hperform]
      dsimp only
      rw [if_pos hdistinct]
      exact ⟨rfl, hdistinct⟩
    · cases h

end Places

/-- The server whose states are the places of its only table. -/
def ExactServer.ofTable (ref : TableRef) (m : TableMetadata) : ExactServer Places where
  server :=
    { query := fun _ t => (.error Places.refused, t)
      execute := Places.execute ref m
      metadata := fun _ t => (.ok (some m), t) }
  ref := ref
  metadata := m
  agrees := Places.sameText
  table := id
  agrees_self := by simp [Places.sameText]
  table_metadata := fun _ _ => rfl
  metadata_eq := fun _ _ h => (Except.ok.inj h).symm
  table_refused := fun _ _ _ h => Places.execute_error h
  updated := by
    intro request t values terms answer hplan h
    have hperform := (Places.execute_ok h).1
    rw [hplan, Option.bind_some, Places.perform, if_pos rfl] at hperform
    obtain ⟨haffected, hafter⟩ := Prod.mk.inj (Option.some.inj hperform)
    exact ⟨haffected.symm, hafter.symm⟩
  deleted := by
    intro request t terms answer hplan h
    have hperform := (Places.execute_ok h).1
    rw [hplan, Option.bind_some, Places.perform, if_pos rfl] at hperform
    obtain ⟨haffected, hafter⟩ := Prod.mk.inj (Option.some.inj hperform)
    exact ⟨haffected.symm, hafter.symm⟩
  distinct := by
    intro request t names hnames hdistinct
    cases hanswer : (Places.execute ref m request t).1 with
    | error e =>
        change (Places.execute ref m request t).2.Distinct Places.sameText names
        rw [Places.execute_error hanswer]
        exact hdistinct
    | ok answer => exact (Places.execute_ok hanswer).2 names hnames

end ScrollCursor
