import QueryBridge.Proofs.Emission.Brackets
import QueryBridge.Proofs.Emission.Clauses
import QueryBridge.Proofs.Emission.Failure

set_option autoImplicit false

/-! Where operands stand in parentheses a set operation can be taken apart again: its operator is the
only one outside of parentheses, and what the parentheses before and behind it enclose are its
operands. Clauses around the operation do not get in the way. -/

namespace QueryBridge.Emission

open Token (space parens)

/-- A token outside of parentheses, or what stands between two of them. -/
inductive Chunk where
  | token (t : Token)
  | group (inner : List Token)

/-- The chunks of a stream, given the number of open parentheses and what stands behind the first of them. -/
def chunksFrom : List Token → Nat → List Token → Option (List Chunk)
  | [], depth, _ => if depth = 0 then some [] else none
  | .symbol .leftParen :: ts, 0, _ => chunksFrom ts 1 []
  | .symbol .leftParen :: ts, depth + 1, inner => chunksFrom ts (depth + 2) (inner ++ [.symbol .leftParen])
  | .symbol .rightParen :: _, 0, _ => none
  | .symbol .rightParen :: ts, 1, inner => (chunksFrom ts 0 []).map (.group inner :: ·)
  | .symbol .rightParen :: ts, depth + 2, inner => chunksFrom ts (depth + 1) (inner ++ [.symbol .rightParen])
  | t :: ts, 0, _ => (chunksFrom ts 0 []).map (.token t :: ·)
  | t :: ts, depth + 1, inner => chunksFrom ts (depth + 1) (inner ++ [t])

def chunks (ts : List Token) : Option (List Chunk) := chunksFrom ts 0 []

def Chunked (ts : List Token) (cs : List Chunk) : Prop :=
  ∀ rest, chunks (ts ++ rest) = (chunks rest).map (cs ++ ·)

def Chunk.word? : Chunk → Option Keyword
  | .token t => queryWord? t
  | .group _ => none

section

variable {ts xs ys : List Token} {cs ds : List Chunk}

theorem Chunked.chunks_eq (h : Chunked ts cs) : chunks ts = some cs := by
  have alone := h []
  have none : chunks [] = some [] := rfl
  rwa [List.append_nil, none, Option.map_some, List.append_nil] at alone

theorem Chunked.nil : Chunked [] [] := by
  intro rest
  rw [List.nil_append]
  exact Option.map_id'.symm

theorem Chunked.append (hx : Chunked xs cs) (hy : Chunked ys ds) : Chunked (xs ++ ys) (cs ++ ds) := by
  intro rest
  rw [List.append_assoc, hx, hy, Option.map_map]
  exact congrArg (Option.map · _) (funext fun _ => (List.append_assoc _ _ _).symm)

theorem chunked_token {t : Token} (plain : isPlain t ∨ t = space) : Chunked [t] [.token t] := by
  intro rest
  cases t with
  | symbol s => cases s <;> first | rfl | simp [isPlain, space] at plain
  | _ => rfl

theorem chunksFrom_token {t : Token} (other : t ≠ .symbol .leftParen ∧ t ≠ .symbol .rightParen) (n : Nat)
    (inner rest : List Token) : chunksFrom (t :: rest) (n + 1) inner = chunksFrom rest (n + 1) (inner ++ [t]) := by
  cases t with
  | symbol s =>
    cases s
    case leftParen => exact absurd rfl other.1
    case rightParen => exact absurd rfl other.2
    all_goals rfl
  | _ => rfl

/-- A stream with matching brackets does not end the parentheses around it. -/
theorem chunksFrom_outlined {is : List Item} (h : Outlined xs is) (n : Nat) (inner rest : List Token) :
    chunksFrom (xs ++ rest) (n + 1) inner = chunksFrom rest (n + 1) (inner ++ xs) := by
  induction h generalizing n inner rest with
  | nil => rw [List.nil_append, List.append_nil]
  | space => rfl
  | token plain =>
    refine chunksFrom_token ?_ n inner rest
    constructor <;> (rintro rfl; cases plain)
  | append _ _ ihx ihy => rw [List.append_assoc, ihx, ihy, List.append_assoc]
  | @parens xs _ _ ih =>
    have opened : chunksFrom (parens xs ++ rest) (n + 1) inner
        = chunksFrom (xs ++ Token.symbol .rightParen :: rest) (n + 2) (inner ++ [Token.symbol .leftParen]) := by
      simp [parens, chunksFrom]
    rw [opened, ih, chunksFrom]
    simp [parens]
  | @case xs _ _ ih =>
    have opened : chunksFrom (Token.keyword .case_ :: xs ++ [Token.keyword .end_] ++ rest) (n + 1) inner
        = chunksFrom (xs ++ Token.keyword .end_ :: rest) (n + 1) (inner ++ [Token.keyword .case_]) := by
      simp [chunksFrom]
    rw [opened, ih, chunksFrom_token (by simp)]
    simp

theorem chunked_parens {is : List Item} (h : Outlined xs is) : Chunked (parens xs) [.group xs] := by
  intro rest
  have opened : chunks (parens xs ++ rest) = chunksFrom (xs ++ .symbol .rightParen :: rest) 1 [] := by
    simp [parens, chunks, chunksFrom]
  rw [opened, chunksFrom_outlined h]
  rfl

theorem chunked_of_outlined {is : List Item} (h : Outlined ts is) :
    ∃ cs, Chunked ts cs ∧ cs.filterMap Chunk.word? = words is := by
  induction h with
  | nil => exact ⟨[], .nil, rfl⟩
  | space => exact ⟨[.token space], chunked_token (.inr rfl), rfl⟩
  | @token t plain =>
    refine ⟨[.token t], chunked_token (.inl plain), ?_⟩
    rw [words, surface_singleton]
    rfl
  | append _ _ ihx ihy =>
    obtain ⟨cs, hc, wc⟩ := ihx
    obtain ⟨ds, hd, wd⟩ := ihy
    exact ⟨cs ++ ds, hc.append hd, by rw [List.filterMap_append, wc, wd, words_append]⟩
  | @parens xs is hx _ =>
    refine ⟨[.group xs], chunked_parens hx, ?_⟩
    rw [words, surface_singleton]
    rfl
  | @case xs is _ ih =>
    obtain ⟨cs, hc, wc⟩ := ih
    have first : Chunked [.keyword .case_] [.token (.keyword .case_)] := fun _ => rfl
    have last : Chunked [.keyword .end_] [.token (.keyword .end_)] := fun _ => rfl
    refine ⟨_, (first.append hc).append last, ?_⟩
    have same : words [.case is] = words is := by rw [words, surface_singleton, Item.surface, words]
    rw [same, List.filterMap_append, List.filterMap_append, wc]
    exact List.append_nil (words is)

theorem HasWords.chunked {ws : List Keyword} (h : HasWords ts ws) :
    ∃ cs, Chunked ts cs ∧ cs.filterMap Chunk.word? = ws := by
  obtain ⟨is, outlined, rfl⟩ := h
  exact chunked_of_outlined outlined

end

inductive Quantifier where
  | all
  | distinct
  | unsaid
  deriving DecidableEq

structure Operation where
  op : SetOp
  quantifier : Quantifier
  left : List Token
  right : List Token
  deriving DecidableEq

def Chunk.operator? : Chunk → Option SetOp
  | .token (.keyword .union) => some .union
  | .token (.keyword .intersect) => some .intersect
  | .token (.keyword .except) => some .except
  | _ => none

def rightOperand? : List Chunk → Option (Quantifier × List Token)
  | .token (.symbol .space) :: .token (.keyword .all) :: .token (.symbol .space) :: .group right :: _ =>
    some (.all, right)
  | .token (.symbol .space) :: .token (.keyword .distinct) :: .token (.symbol .space) :: .group right :: _ =>
    some (.distinct, right)
  | .token (.symbol .space) :: .group right :: _ => some (.unsaid, right)
  | _ => none

/-- The first operator with the last group in front of it and the first one behind it. -/
def findOperation (last : List Token) : List Chunk → Option Operation
  | [] => none
  | .group inner :: rest => findOperation inner rest
  | .token t :: rest =>
    match Chunk.operator? (.token t) with
    | some op => (rightOperand? rest).map fun (quantifier, right) => ⟨op, quantifier, last, right⟩
    | none => findOperation last rest

def operation? (ts : List Token) : Option Operation := (chunks ts).bind (findOperation [])

section

variable {cs front rest : List Chunk} {last : List Token}

theorem findOperation_skip (quiet : ∀ c ∈ front, c.operator? = none) (last : List Token) (rest : List Chunk) :
    ∃ last', findOperation last (front ++ rest) = findOperation last' rest := by
  induction front generalizing last with
  | nil => exact ⟨last, rfl⟩
  | cons c front ih =>
    obtain ⟨first, others⟩ := List.forall_mem_cons.1 quiet
    cases c with
    | group inner => exact ih others inner
    | token t =>
      rw [List.cons_append, findOperation, first]
      exact ih others last

theorem findOperation_none (quiet : ∀ c ∈ cs, c.operator? = none) : findOperation last cs = none := by
  obtain ⟨last', skipped⟩ := findOperation_skip quiet last []
  rw [List.append_nil] at skipped
  rw [skipped, findOperation]

def quantifierChunks (r : Rules) (all : Bool) : List Chunk :=
  if all then [.token space, .token (.keyword .all)]
  else if r.explicitDistinct then [.token space, .token (.keyword .distinct)] else []

def quantifier (r : Rules) (all : Bool) : Quantifier :=
  if all then .all else if r.explicitDistinct then .distinct else .unsaid

theorem findOperation_at {r : Rules} {op : SetOp} {all : Bool} {left right : List Token}
    (quiet : ∀ c ∈ front, c.operator? = none) :
    findOperation last (front ++ (.group left :: .token space :: .token (.keyword op.keyword) ::
        (quantifierChunks r all ++ .token space :: .group right :: rest))) =
      some ⟨op, quantifier r all, left, right⟩ := by
  obtain ⟨last', skipped⟩ := findOperation_skip quiet last
    (.group left :: .token space :: .token (.keyword op.keyword) ::
      (quantifierChunks r all ++ .token space :: .group right :: rest))
  have operator : Chunk.operator? (.token (.keyword op.keyword)) = some op := by cases op <;> rfl
  have behind : rightOperand? (quantifierChunks r all ++ .token space :: .group right :: rest) =
      some (quantifier r all, right) := by
    unfold quantifierChunks quantifier
    split
    · rfl
    split <;> rfl
  rw [skipped, findOperation, findOperation]
  change findOperation left (.token (.keyword op.keyword) :: _) = _
  rw [findOperation, operator]
  simp only [behind, Option.map_some]

theorem operator?_quiet (silent : ∀ op : SetOp, op.keyword ∉ cs.filterMap Chunk.word?) :
    ∀ c ∈ cs, c.operator? = none := by
  intro c hc
  cases found : c.operator? with
  | none => rfl
  | some op =>
    have word : c.word? = some op.keyword := by
      unfold Chunk.operator? at found
      split at found <;> cases found <;> rfl
    exact absurd (List.mem_filterMap.2 ⟨c, hc, word⟩) (silent op)

end

/-- The chunks of a body: one operator with its operands in parentheses, or none. -/
def Placed (r : Rules) (cs : List Chunk) : Body → Prop
  | .select _ => ∀ c ∈ cs, c.operator? = none
  | .setOp op all left right => ∃ front back a b, left.tokens r = .ok a ∧ right.tokens r = .ok b ∧
      (∀ c ∈ front, c.operator? = none) ∧
      cs = front ++ (.group a :: .token space :: .token (.keyword op.keyword) ::
        (quantifierChunks r all ++ .token space :: .group b :: back))
  | .query _ => False

section

variable {r : Rules} {ts : List Token}

theorem Placed.surround {cs front back : List Chunk} {b : Body} (h : Placed r cs b)
    (before : ∀ c ∈ front, c.operator? = none) (behind : ∀ c ∈ back, c.operator? = none) :
    Placed r (front ++ cs ++ back) b := by
  cases b with
  | select s =>
    refine List.forall_mem_append.2 ⟨List.forall_mem_append.2 ⟨before, ?_⟩, behind⟩
    exact h
  | setOp op all left right =>
    obtain ⟨front', back', x, y, hx, hy, quiet, rfl⟩ := h
    refine ⟨front ++ front', back' ++ back, x, y, hx, hy, List.forall_mem_append.2 ⟨before, quiet⟩, ?_⟩
    simp
  | query q => exact h.elim

theorem select_placed {s : Select} (emitted : s.tokens r = .ok ts) :
    ∃ cs, Chunked ts cs ∧ Placed r cs (.select s) := by
  obtain ⟨rest, rfl, quiet⟩ := speaking_ascends.select_holds s ts emitted
  have said : HasWords (.keyword .select :: rest) [.select] := quiet.cons rfl
  obtain ⟨cs, chunked, words⟩ := said.chunked
  refine ⟨cs, chunked, operator?_quiet fun op => ?_⟩
  rw [words]
  cases op <;> decide

theorem setOp_placed (parens : r.operandParens) {op : SetOp} {all : Bool} {left right : Body}
    (emitted : (Body.setOp op all left right).tokens r = .ok ts) :
    ∃ cs, Chunked ts cs ∧ Placed r cs (.setOp op all left right) := by
  obtain ⟨x, y, hx, hy, rfl⟩ := Body.tokens_setOp_ok.1 emitted
  obtain ⟨a, ha, rfl⟩ := (Body.operandTokens_parens_ok parens).1 hx
  obtain ⟨b, hb, rfl⟩ := (Body.operandTokens_parens_ok parens).1 hy
  obtain ⟨is, leftOutlined, -⟩ := (speaking_ascends.body_holds left).1 a ha
  obtain ⟨js, rightOutlined, -⟩ := (speaking_ascends.body_holds right).1 b hb
  have blank : Chunked [space] [.token space] := fun _ => rfl
  have operator : Chunked [.keyword op.keyword] [.token (.keyword op.keyword)] := fun _ => rfl
  have said : Chunked (if all then [space, .keyword .all]
      else if r.explicitDistinct then [space, .keyword .distinct] else []) (quantifierChunks r all) := by
    unfold quantifierChunks
    split
    · exact blank.append (chunked_token (.inl rfl))
    split
    · exact blank.append (chunked_token (.inl rfl))
    · exact .nil
  have whole := (((chunked_parens leftOutlined).append (blank.append operator)).append said).append
    (blank.append (chunked_parens rightOutlined))
  refine ⟨_, whole, [], [], a, b, ha, hb, nofun, ?_⟩
  simp

/-- Clauses around a body have no operator of a set operation outside of parentheses. -/
theorem query_placed {q : Query} (core : Body)
    (h : ∀ b, q.body.tokens r = .ok b → ∃ cs, Chunked b cs ∧ Placed r cs core)
    (emitted : q.tokens r = .ok ts) : ∃ cs, Chunked ts cs ∧ Placed r cs core := by
  obtain ⟨c, b, o, l, f, ctes, body, orders, limit, offset, rfl⟩ := Query.tokens_ok.1 emitted
  obtain ⟨cs, chunked, placed⟩ := h b body
  have pieces := speaking_ascends (r := r)
  obtain ⟨front, frontChunked, frontWords⟩ := (hasWords_withTokens (pieces.ctes_hold _) ctes).chunked
  obtain ⟨back, backChunked, backWords⟩ := (hasWords_clauseTokens (pieces.orders_hold _)
    (pieces.option_holds _) (pieces.option_holds _) orders limit offset).chunked
  have before : ∀ c ∈ front, c.operator? = none := by
    refine operator?_quiet fun op => ?_
    rw [frontWords, Query.withWords]
    split <;> cases op <;> decide
  have behind : ∀ c ∈ back, c.operator? = none := by
    refine operator?_quiet fun op => ?_
    rw [backWords, Query.clauseWords]
    cases q.orderBy.isEmpty <;> cases q.limit.isSome <;> cases q.offset.isSome <;>
      cases r.offsetNeedsLimit <;> cases op <;> decide
  have whole := (frontChunked.append chunked).append backChunked
  simp only [List.append_assoc] at whole ⊢
  refine ⟨_, whole, ?_⟩
  have surrounded := placed.surround before behind
  rwa [List.append_assoc] at surrounded

mutual

theorem body_placed (parens : r.operandParens) : ∀ (b : Body) (ts : List Token), b.tokens r = .ok ts →
    ∃ cs, Chunked ts cs ∧ Placed r cs b.core
  | .select _, _, emitted => select_placed (Body.tokens_select_ok.1 emitted)
  | .setOp _ _ _ _, _, emitted => setOp_placed parens emitted
  | .query q, ts, emitted => queryBody_placed parens q ts (Body.tokens_query_ok.1 emitted)

theorem queryBody_placed (parens : r.operandParens) : ∀ (q : Query) (ts : List Token), q.tokens r = .ok ts →
    ∃ cs, Chunked ts cs ∧ Placed r cs q.core
  | ⟨_, _, body, _, _, _⟩, _, emitted => query_placed body.core (body_placed parens body) emitted

end

theorem operation?_of_select (parens : r.operandParens) {b : Body} {s : Select} (core : b.core = .select s)
    (emitted : b.tokens r = .ok ts) : operation? ts = none := by
  obtain ⟨cs, chunked, placed⟩ := body_placed parens b ts emitted
  rw [core] at placed
  rw [operation?, chunked.chunks_eq, Option.bind_some, findOperation_none placed]

theorem operation?_of_setOp (parens : r.operandParens) {b left right : Body} {op : SetOp} {all : Bool}
    (core : b.core = .setOp op all left right) (emitted : b.tokens r = .ok ts) :
    ∃ x y, left.tokens r = .ok x ∧ right.tokens r = .ok y ∧
      operation? ts = some ⟨op, quantifier r all, x, y⟩ := by
  obtain ⟨cs, chunked, placed⟩ := body_placed parens b ts emitted
  rw [core] at placed
  obtain ⟨front, back, x, y, hx, hy, quiet, rfl⟩ := placed
  refine ⟨x, y, hx, hy, ?_⟩
  rw [operation?, chunked.chunks_eq, Option.bind_some, findOperation_at quiet]

end

inductive SetTree where
  | block (ts : List Token)
  | operation (o : Operation) (left right : SetTree)
  deriving DecidableEq

namespace SetTree

/-- The tree is read from the stream: operands are read like the stream they stand in. -/
inductive ReadFrom : List Token → SetTree → Prop
  | block {ts : List Token} (none : operation? ts = none) : ReadFrom ts (.block ts)
  | operation {ts : List Token} {o : Operation} {x y : SetTree} (one : operation? ts = some o)
    (left : ReadFrom o.left x) (right : ReadFrom o.right y) : ReadFrom ts (.operation o x y)

theorem ReadFrom.unique {ts : List Token} {x y : SetTree} (hx : ReadFrom ts x) (hy : ReadFrom ts y) : x = y := by
  induction hx generalizing y with
  | block none =>
    cases hy with
    | block => rfl
    | operation one => cases none.symm.trans one
  | operation one _ _ ihl ihr =>
    cases hy with
    | block none => cases one.symm.trans none
    | operation one' left right =>
      obtain rfl := Option.some.inj (one.symm.trans one')
      rw [ihl left, ihr right]

/-- The tree has the operators, quantifiers and operands' streams of the body, level by level. -/
inductive Describes (d : Dialect) : Body → SetTree → Prop
  | block {b : Body} {s : Select} {ts : List Token} (core : b.core = .select s)
    (emitted : b.tokens d.rules = .ok ts) : Describes d b (.block ts)
  | operation {b left right : Body} {op : SetOp} {all : Bool} {a c : List Token} {x y : SetTree}
    (core : b.core = .setOp op all left right)
    (leftEmitted : left.tokens d.rules = .ok a) (rightEmitted : right.tokens d.rules = .ok c)
    (hx : Describes d left x) (hy : Describes d right y) :
    Describes d b (.operation
      ⟨op, if all then .all else if d = .bigquery then .distinct else .unsaid, a, c⟩ x y)

end SetTree

section

variable {d : Dialect}

def ReadBack (d : Dialect) (b : Body) : Prop :=
  ∀ ts, b.tokens d.rules = .ok ts → ∃ t : SetTree, t.ReadFrom ts ∧ t.Describes d b

theorem quantifier_dialect (d : Dialect) (all : Bool) : quantifier d.rules all =
    if all then .all else if d = .bigquery then .distinct else .unsaid := by
  cases all <;> cases d <;> rfl

theorem readBack_of_operands (parenthesized : d ≠ .sqlite) {b : Body}
    (operands : ∀ op all left right, b.core = .setOp op all left right → ReadBack d left ∧ ReadBack d right) :
    ReadBack d b := by
  intro ts emitted
  have parens : d.rules.operandParens := operandParens_iff.2 parenthesized
  cases core : b.core with
  | select s =>
    exact ⟨.block ts, .block (operation?_of_select parens core emitted), .block core emitted⟩
  | setOp op all left right =>
    obtain ⟨x, y, hx, hy, read⟩ := operation?_of_setOp parens core emitted
    obtain ⟨hleft, hright⟩ := operands op all left right core
    obtain ⟨t, leftRead, leftTree⟩ := hleft x hx
    obtain ⟨u, rightRead, rightTree⟩ := hright y hy
    rw [quantifier_dialect] at read
    exact ⟨_, .operation read leftRead rightRead, .operation core hx hy leftTree rightTree⟩
  | query q =>
    obtain ⟨cs, -, placed⟩ := body_placed parens b ts emitted
    rw [core] at placed
    exact placed.elim

mutual

theorem operands_readBack (parenthesized : d ≠ .sqlite) : ∀ (b : Body) (op : SetOp) (all : Bool)
    (left right : Body), b.core = .setOp op all left right → ReadBack d left ∧ ReadBack d right
  | .select _, _, _, _, _, core => by cases core
  | .setOp _ _ left right, _, _, _, _, core => by
    have readLeft := readBack_of_operands parenthesized (operands_readBack parenthesized left)
    have readRight := readBack_of_operands parenthesized (operands_readBack parenthesized right)
    cases core
    exact ⟨readLeft, readRight⟩
  | .query q, op, all, left, right, core => queryOperands_readBack parenthesized q op all left right core

theorem queryOperands_readBack (parenthesized : d ≠ .sqlite) : ∀ (q : Query) (op : SetOp) (all : Bool)
    (left right : Body), q.core = .setOp op all left right → ReadBack d left ∧ ReadBack d right
  | ⟨_, _, body, _, _, _⟩, op, all, left, right, core =>
    operands_readBack parenthesized body op all left right core

end

/-- Brackets match in all that is written. A set operation, clauses around it or not, is read back from its
tokens alone: its operator, its quantifier and the streams of both operands, and so on in the operands. -/
theorem setOperations_read_back (parenthesized : d ≠ .sqlite) :
    (∀ (e : Expr) (ts : List Token), e.tokens d.rules = .ok ts → Balanced ts) ∧
    (∀ (q : Query) (ts : List Token), q.tokens d.rules = .ok ts → Balanced ts) ∧
    ∀ (b : Body) (ts : List Token), b.tokens d.rules = .ok ts → Balanced ts ∧
      ∃ t : SetTree, t.ReadFrom ts ∧ t.Describes d b ∧ ∀ u : SetTree, u.ReadFrom ts → u = t := by
  refine ⟨fun e ts emitted => ?exprs, fun q ts emitted => ?queries, fun b ts emitted => ⟨?bodies, ?read⟩⟩
  case exprs => exact (bracketing_ascends.expr_holds e ts emitted).balanced
  case queries => exact ((bracketing_ascends.query_holds q).1 ts emitted).balanced
  case bodies => exact ((bracketing_ascends.body_holds b).1 ts emitted).balanced
  case read =>
    have readBack := readBack_of_operands parenthesized (operands_readBack parenthesized b)
    obtain ⟨t, read, describes⟩ := readBack ts emitted
    exact ⟨t, read, describes, fun u other => other.unique read⟩

end

def columnOf (table : String) : Select :=
  ⟨false, [⟨.column [] "x", none⟩], [⟨.table [table] none, []⟩], none, [], none⟩

def columnOfTokens (table : String) : List Token :=
  [.keyword .select, space, .ident "x", space, .keyword .from_, space, .ident table]

/-- `SELECT x FROM a UNION ALL (SELECT x FROM b EXCEPT SELECT x FROM c LIMIT 1)` -/
def limitedExcept : Body :=
  .setOp .union true (.select (columnOf "a"))
    (.query ⟨[], false, .setOp .except false (.select (columnOf "b")) (.select (columnOf "c")), [],
      some (.literal (.int 1)), none⟩)

def limitedExceptTokens : List Token :=
  parens (columnOfTokens "b") ++ [space, .keyword .except, space, .keyword .distinct, space]
    ++ parens (columnOfTokens "c") ++ [space, .keyword .limit, space, .int 1]

def limitedExceptTree : SetTree :=
  .operation ⟨.union, .all, columnOfTokens "a", limitedExceptTokens⟩ (.block (columnOfTokens "a"))
    (.operation ⟨.except, .distinct, columnOfTokens "b", columnOfTokens "c"⟩
      (.block (columnOfTokens "b")) (.block (columnOfTokens "c")))

theorem limitedExcept_read_back : Dialect.bigquery ≠ .sqlite ∧
    ∃ ts, limitedExcept.tokens Dialect.bigquery.rules = .ok ts ∧ Balanced ts ∧
      limitedExceptTree.Describes .bigquery limitedExcept ∧
      ∀ u : SetTree, u.ReadFrom ts → u = limitedExceptTree := by
  have other : Dialect.bigquery ≠ .sqlite := nofun
  refine ⟨other, _, rfl, ?_⟩
  obtain ⟨balanced, t, -, describes, unique⟩ :=
    (setOperations_read_back other).2.2 limitedExcept _ rfl
  have same : limitedExceptTree = t :=
    unique _ (.operation rfl (.block rfl) (.operation rfl (.block rfl) (.block rfl)))
  subst same
  exact ⟨balanced, describes, unique⟩

end QueryBridge.Emission
