import QueryBridge.Proofs.Emission.QueryWords

set_option autoImplicit false

namespace QueryBridge

mutual

/-- The queries nested directly as bodies, from the outside to the inside. -/
def Body.nested : Body → List Query
  | .select _ | .setOp _ _ _ _ => []
  | .query q => q :: q.nested

def Query.nested : Query → List Query
  | ⟨_, _, body, _, _, _⟩ => body.nested

end

mutual

/-- The SELECT or set operation within all queries nested directly as bodies. -/
def Body.core : Body → Body
  | .select s => .select s
  | .setOp op all left right => .setOp op all left right
  | .query q => q.core

def Query.core : Query → Body
  | ⟨_, _, body, _, _, _⟩ => body.core

end

def Query.unwrapped (q : Query) : Query := { q with body := q.core }

/-- What the clauses behind a body do to its rows. -/
structure ClauseMeaning (ρ : Type) where
  sort : List OrderItem → List ρ → List ρ
  count : Expr → Nat
  sort_nil (rows : List ρ) : sort [] rows = rows

/-- The rows of the body in order, without those skipped, and no more than the limit. -/
def Query.clauseRows {ρ : Type} (m : ClauseMeaning ρ) (q : Query) (rows : List ρ) : List ρ :=
  let sorted := m.sort q.orderBy rows
  let skipped := sorted.drop ((q.offset.map m.count).getD 0)
  (q.limit.map fun l => skipped.take (m.count l)).getD skipped

mutual

/-- The rows of a body whose core has the given rows: inner clauses come before outer ones. -/
def Body.rows {ρ : Type} (m : ClauseMeaning ρ) (core : List ρ) : Body → List ρ
  | .select _ | .setOp _ _ _ _ => core
  | .query q => q.rows m core

def Query.rows {ρ : Type} (m : ClauseMeaning ρ) (core : List ρ) : Query → List ρ
  | ⟨ctes, recursive, body, orderBy, limit, offset⟩ =>
    (⟨ctes, recursive, body, orderBy, limit, offset⟩ : Query).clauseRows m (body.rows m core)

end

/-- The words of the query's own clauses in the order of the text. -/
def Query.ownClauses (r : Rules) (q : Query) : List Keyword := q.withWords ++ q.clauseWords r

namespace Emission

def depthZero : Nat → List Token → List Token
  | _, [] => []
  | depth, .symbol .leftParen :: ts => depthZero (depth + 1) ts
  | depth, .symbol .rightParen :: ts => depthZero (depth - 1) ts
  | 0, t :: ts => t :: depthZero 0 ts
  | depth + 1, _ :: ts => depthZero (depth + 1) ts

def isClauseWord : Keyword → Bool
  | .with_ | .orderBy | .limit | .offset => true
  | _ => false

def clauses (ts : List Token) : List Keyword :=
  ((depthZero 0 ts).filterMap queryWord?).filter isClauseWord

variable {r : Rules} {ts : List Token}

theorem depthZero_outlined {is : List Item} (h : Outlined ts is) (rest : List Token) :
    (depthZero 0 (ts ++ rest)).filterMap queryWord? = words is ++ (depthZero 0 rest).filterMap queryWord? ∧
      ∀ depth, depthZero (depth + 1) (ts ++ rest) = depthZero (depth + 1) rest := by
  -- Within parentheses only the depth counts, which the brackets of the stream bring back to what it was.
  induction h generalizing rest with
  | nil => exact ⟨rfl, fun _ => rfl⟩
  | space => exact ⟨rfl, fun _ => rfl⟩
  | @token t plain =>
    have kept (depth : Nat) : depthZero depth (t :: rest) =
        if depth = 0 then t :: depthZero 0 rest else depthZero depth rest := by
      cases depth <;> cases t with
      | symbol s => cases s <;> first | rfl | cases plain
      | _ => rfl
    refine ⟨?_, fun depth => kept (depth + 1)⟩
    rw [List.singleton_append, kept, if_pos rfl, words, surface_singleton, Item.surface,
      ← List.singleton_append, List.filterMap_append]
  | append hx hy ihx ihy =>
    refine ⟨?_, fun depth => ?_⟩
    · rw [List.append_assoc, (ihx _).1, (ihy _).1, words_append, List.append_assoc]
    · rw [List.append_assoc, (ihx _).2, (ihy _).2]
  | parens hx ih =>
    refine ⟨?_, fun depth => ?_⟩
    · rw [words, surface_singleton, Item.surface, Token.parens, List.append_assoc]
      exact congrArg _ ((ih _).2 0)
    · rw [Token.parens, List.append_assoc]
      exact (ih _).2 (depth + 1)
  | case hx ih =>
    refine ⟨?_, fun depth => ?_⟩
    · rw [words, surface_singleton, Item.surface, List.append_assoc]
      exact (ih _).1
    · rw [List.append_assoc]
      exact (ih _).2 depth

theorem clauses_eq {ws : List Keyword} (h : HasWords ts ws) : clauses ts = ws.filter isClauseWord := by
  obtain ⟨is, outlined, rfl⟩ := h
  have read := (depthZero_outlined outlined []).1
  rw [List.append_nil] at read
  rw [clauses, read, depthZero, List.filterMap_nil, List.append_nil]

theorem setOp_word (op : SetOp) : isClauseWord op.keyword = false := by cases op <;> rfl

mutual

theorem body_bareWords : ∀ b : Body, b.bareWords.filter isClauseWord = []
  | .select _ => rfl
  | .setOp op _ left right => by
    rw [Body.bareWords, List.filter_append, List.filter_cons, setOp_word, body_bareWords left,
      body_bareWords right]
    rfl
  | .query q => query_bareWords q

theorem query_bareWords : ∀ q : Query, q.bareWords.filter isClauseWord = []
  | ⟨_, _, body, _, _, _⟩ => body_bareWords body

end

theorem operandWords_clauses (b : Body) : (b.operandWords r).filter isClauseWord = [] := by
  unfold Body.operandWords
  split
  · rfl
  · exact body_bareWords b

theorem withWords_clauses (q : Query) : q.withWords.filter isClauseWord = q.withWords := by
  unfold Query.withWords
  split <;> rfl

theorem clauseWords_clauses (q : Query) : (q.clauseWords r).filter isClauseWord = q.clauseWords r := by
  unfold Query.clauseWords
  cases q.orderBy.isEmpty <;> cases q.limit.isSome <;> cases q.offset.isSome <;>
    cases r.offsetNeedsLimit <;> rfl

/-- The clauses of a body at depth zero: those of the queries nested in it. -/
def nestedClauses (r : Rules) (nested : List Query) : List Keyword :=
  nested.foldr (fun q inner => q.withWords ++ inner ++ q.clauseWords r) []

theorem ownClauses_eq_nil {q : Query} : q.ownClauses r = [] ↔ q.hasClauses = false := by
  simp only [Query.ownClauses, Query.withWords, Query.clauseWords, Query.hasClauses]
  cases q.ctes.isEmpty <;> cases q.orderBy.isEmpty <;> cases q.limit.isSome <;> cases q.offset.isSome <;> simp

theorem nestedClauses_eq_nil {nested : List Query} :
    nestedClauses r nested = [] ↔ ∀ q ∈ nested, q.hasClauses = false := by
  induction nested with
  | nil => simp [nestedClauses]
  | cons q nested ih =>
    rw [List.forall_mem_cons, ← ih, ← ownClauses_eq_nil (r := r), Query.ownClauses]
    simp only [nestedClauses, List.foldr_cons, List.append_eq_nil_iff]
    tauto

mutual

theorem body_clauses : ∀ b : Body, (b.words r).filter isClauseWord = nestedClauses r b.nested
  | .select _ => rfl
  | .setOp op _ left right => by
    rw [Body.words, List.filter_append, List.filter_cons, operandWords_clauses, operandWords_clauses, setOp_word]
    rfl
  | .query q => by
    rw [Body.words, Body.nested, query_clauses q]
    rfl

theorem query_clauses : ∀ q : Query,
    (q.words r).filter isClauseWord = q.withWords ++ nestedClauses r q.nested ++ q.clauseWords r
  | ⟨ctes, recursive, body, orderBy, limit, offset⟩ => by
    rw [Query.words, List.filter_append, List.filter_append, withWords_clauses, clauseWords_clauses,
      body_clauses body]
    rfl

end

theorem clause_free_iff {q : Query} : q.withWords ++ nestedClauses r q.nested ++ q.clauseWords r = q.ownClauses r ↔
    ∀ n ∈ q.nested, n.hasClauses = false := by
  rw [← nestedClauses_eq_nil (r := r), Query.ownClauses, List.append_assoc, List.append_cancel_left_eq]
  exact List.append_left_eq_self

mutual

theorem body_core : ∀ b : Body, (∀ n ∈ b.nested, n.hasClauses = false) →
    (b.tokens r = .ok ts ↔ b.core.tokens r = .ok ts)
  | .select _, _ => .rfl
  | .setOp _ _ _ _, _ => .rfl
  | .query q, free => by
    rw [Body.nested, List.forall_mem_cons] at free
    exact (Body.tokens_wrapper_ok free.1).trans (query_core q free.2)

theorem query_core : ∀ q : Query, (∀ n ∈ q.nested, n.hasClauses = false) →
    (q.body.tokens r = .ok ts ↔ q.core.tokens r = .ok ts)
  | ⟨_, _, body, _, _, _⟩, free => body_core body free

end

section

variable {ρ : Type} (m : ClauseMeaning ρ) (core : List ρ)

theorem clauseRows_free {q : Query} (free : q.hasClauses = false) (rows : List ρ) : q.clauseRows m rows = rows := by
  obtain ⟨-, orders, limit, offset⟩ := Query.hasClauses_eq_false.1 free
  simp [Query.clauseRows, orders, limit, offset, m.sort_nil]

mutual

theorem body_rows : ∀ b : Body, (∀ n ∈ b.nested, n.hasClauses = false) → b.rows m core = core
  | .select _, _ => rfl
  | .setOp _ _ _ _, _ => rfl
  | .query q, free => by
    rw [Body.nested, List.forall_mem_cons] at free
    rw [Body.rows, query_rows q free.2, clauseRows_free m free.1]

theorem query_rows : ∀ q : Query, (∀ n ∈ q.nested, n.hasClauses = false) → q.rows m core = q.clauseRows m core
  | ⟨_, _, body, _, _, _⟩, free => by
    rw [Query.rows, body_rows body free]

end

end

/-- At depth zero a query has its own clauses around those of the queries nested in it. Its own are read
alone exactly if none of these has clauses; then it is written as it would be without them, and its rows are
those of its own clauses. -/
theorem clauses_separate_iff {d : Dialect} {q : Query} (emitted : q.tokens d.rules = .ok ts) :
    clauses ts = q.withWords ++ nestedClauses d.rules q.nested ++ q.clauseWords d.rules ∧
      (clauses ts = q.ownClauses d.rules ↔ ∀ n ∈ q.nested, n.hasClauses = false) ∧
      ((∀ n ∈ q.nested, n.hasClauses = false) → q.unwrapped.tokens d.rules = .ok ts ∧
        ∀ {ρ : Type} (m : ClauseMeaning ρ) (core : List ρ), q.rows m core = q.unwrapped.clauseRows m core) := by
  have words := clauses_eq ((speaking_ascends.query_holds q).1 ts emitted)
  rw [query_clauses] at words
  refine ⟨words, by rw [words, clause_free_iff], fun free => ?_⟩
  obtain ⟨c, b, o, l, f, ctes, body, orders, limit, offset, layout⟩ := Query.tokens_ok.1 emitted
  have within : q.core.tokens d.rules = .ok b := (query_core q free).1 body
  exact ⟨Query.tokens_ok.2 ⟨c, b, o, l, f, ctes, within, orders, limit, offset, layout⟩,
    fun m core => query_rows m core q free⟩

/-- `SELECT a FROM t LIMIT 10 OFFSET 5`. -/
def flatLimit : Query :=
  ⟨[], false, .select ⟨false, [⟨.column [] "a", none⟩], [⟨.table ["t"] none, []⟩], none, [], none⟩, [],
    some (.literal (.int 10)), some (.literal (.int 5))⟩

/-- `(SELECT a FROM t LIMIT 10) OFFSET 5`. -/
def nestedLimit : Query :=
  ⟨[], false, .query { flatLimit with offset := none }, [], none, some (.literal (.int 5))⟩

def flatLimitTokens : List Token :=
  [.keyword .select, .space, .ident "a", .space, .keyword .from_, .space, .ident "t", .space, .keyword .limit,
    .space, .int 10, .space, .keyword .offset, .space, .int 5]

theorem flatLimit_tokens : flatLimit.tokens Dialect.postgres.rules = .ok flatLimitTokens := by
  rfl

theorem nestedLimit_tokens : nestedLimit.tokens Dialect.postgres.rules = .ok flatLimitTokens := by
  rfl

/-- What the clauses of the flat query mean: no order, and the numbers as they are. -/
def countedLiterally : ClauseMeaning Nat where
  sort _ rows := rows
  count
    | .literal (.int n) => n.toNatClampNeg
    | _ => 0
  sort_nil _ := rfl

theorem flatLimit_separate : flatLimit.tokens Dialect.postgres.rules = .ok flatLimitTokens ∧
    clauses flatLimitTokens = flatLimit.ownClauses Dialect.postgres.rules :=
  ⟨flatLimit_tokens, (clauses_separate_iff flatLimit_tokens).2.1.2 nofun⟩

/-- The limit of the nested query is read as one of the query around it, after whose offset it counts. -/
theorem nestedLimit_read_as_flat :
    nestedLimit.sql .postgres = .ok "SELECT \"a\" FROM \"t\" LIMIT 10 OFFSET 5" ∧
      nestedLimit.sql .postgres = flatLimit.sql .postgres ∧
      clauses flatLimitTokens ≠ nestedLimit.ownClauses Dialect.postgres.rules ∧
      nestedLimit.rows countedLiterally (List.range 20) = [5, 6, 7, 8, 9] ∧
      flatLimit.rows countedLiterally (List.range 20) = [5, 6, 7, 8, 9, 10, 11, 12, 13, 14] := by
  refine ⟨?_, ?_, by decide +kernel, by decide +kernel, by decide +kernel⟩
  · rw [Query.sql, nestedLimit_tokens]
    decide +kernel
  · rw [Query.sql, Query.sql, nestedLimit_tokens, flatLimit_tokens]

end Emission

end QueryBridge
