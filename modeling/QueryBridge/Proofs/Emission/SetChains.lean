import QueryBridge.Proofs.Emission.Failure
import QueryBridge.Proofs.Emission.QueryWords
import QueryBridge.Proofs.Meaning.SetOperations

set_option autoImplicit false

namespace QueryBridge

open Meaning (SetOperator Record combine regroups)

mutual

def Body.chain : Body → Select × List (SetOperator × Select)
  | .select s => (s, [])
  | .setOp op all left right =>
    (left.chain.1, left.chain.2 ++ ((op, all), right.chain.1) :: right.chain.2)
  | .query q => q.chain

def Query.chain : Query → Select × List (SetOperator × Select)
  | ⟨_, _, body, _, _, _⟩ => body.chain

end

mutual

/-- Every operator to the right of another one can be regrouped with it. -/
def Body.Regroupable : Body → Prop
  | .select _ => True
  | .setOp op all left right =>
    left.Regroupable ∧ right.Regroupable ∧ ∀ x ∈ right.chain.2, regroups (op, all) x.1
  | .query q => q.Regroupable

def Query.Regroupable : Query → Prop
  | ⟨_, _, body, _, _, _⟩ => body.Regroupable

end

section

variable {α β : Type} [DecidableEq α]

mutual

/-- The rows of a body by its grouping, given those of its SELECTs. -/
def Body.bag (rows : Select → Multiset (Record α)) : Body → Multiset (Record α)
  | .select s => rows s
  | .setOp op all left right => combine op all (left.bag rows) (right.bag rows)
  | .query q => q.bag rows

def Query.bag (rows : Select → Multiset (Record α)) : Query → Multiset (Record α)
  | ⟨_, _, body, _, _, _⟩ => body.bag rows

end

def applyStep (rows : β → Multiset (Record α)) (before : Multiset (Record α)) (x : SetOperator × β) :
    Multiset (Record α) :=
  combine x.1.1 x.1.2 before (rows x.2)

/-- The rows of a chain from the left to the right. -/
def chainBag (rows : β → Multiset (Record α)) (chain : β × List (SetOperator × β)) : Multiset (Record α) :=
  chain.2.foldl (applyStep rows) (rows chain.1)

end

namespace Emission

open Token (space)

section

variable {α : Type} [DecidableEq α] (rows : Select → Multiset (Record α))

/-- An operator moves into a chain on its right if it can be regrouped with every operator there. -/
theorem foldl_regroups {op : SetOperator} (before : Multiset (Record α)) (steps : List (SetOperator × Select))
    (h : ∀ x ∈ steps, regroups op x.1) (first : Multiset (Record α)) :
    combine op.1 op.2 before (steps.foldl (applyStep rows) first)
      = steps.foldl (applyStep rows) (combine op.1 op.2 before first) := by
  induction steps generalizing first with
  | nil => rfl
  | cons x steps ih =>
    obtain ⟨head, tail⟩ := List.forall_mem_cons.1 h
    have moved : combine op.1 op.2 before (applyStep rows first x)
        = applyStep rows (combine op.1 op.2 before first) x :=
      (Meaning.regroups_iff op x.1).1 head before first (rows x.2)
    rw [List.foldl_cons, List.foldl_cons, ih tail, moved]

mutual

theorem chainBag_body : ∀ b : Body, b.Regroupable → chainBag rows b.chain = b.bag rows
  | .select _, _ => rfl
  | .setOp op all left right, ⟨hl, hr, h⟩ => by
    rw [Body.bag, ← chainBag_body left hl, ← chainBag_body right hr]
    simp only [chainBag, Body.chain, List.foldl_append, List.foldl_cons]
    exact (foldl_regroups rows _ right.chain.2 h _).symm
  | .query q, h => chainBag_query q h

theorem chainBag_query : ∀ q : Query, q.Regroupable → chainBag rows q.chain = q.bag rows
  | ⟨_, _, body, _, _, _⟩, h => chainBag_body body h

end

end

def setOperator? : Item → Option SetOp
  | .token (.keyword .union) => some .union
  | .token (.keyword .intersect) => some .intersect
  | .token (.keyword .except) => some .except
  | _ => none

def readChain : List Item → List Item × List (SetOperator × List Item)
  | [] => ([], [])
  | item :: rest =>
    let chain := readChain rest
    match setOperator? item with
    | none => (item :: chain.1, chain.2)
    | some op => match chain.1 with
      | .token (.keyword .all) :: operand => ([], ((op, true), operand) :: chain.2)
      | operand => ([], ((op, false), operand) :: chain.2)

section

variable {xs ys : List Item}

theorem readChain_operand (h : ∀ i ∈ xs, setOperator? i = none) : readChain xs = (xs, []) := by
  induction xs with
  | nil => rfl
  | cons i xs ih =>
    obtain ⟨first, rest⟩ := List.forall_mem_cons.1 h
    simp only [readChain, first, ih rest]

theorem readChain_append (h : (readChain ys).1 = []) :
    readChain (xs ++ ys) = ((readChain xs).1, (readChain xs).2 ++ (readChain ys).2) := by
  induction xs with
  | nil => exact Prod.ext h rfl
  | cons i xs ih =>
    simp only [List.cons_append, readChain, ih]
    split
    · rfl
    · split <;> rfl

end

theorem setOperator?_of_quiet {is : List Item} (quiet : words is = []) : ∀ i ∈ is, setOperator? i = none := by
  induction is with
  | nil => exact nofun
  | cons i is ih =>
    rw [← List.singleton_append, words_append, List.append_eq_nil_iff] at quiet
    refine List.forall_mem_cons.2 ⟨?_, ih quiet.2⟩
    unfold setOperator?
    split
    all_goals first | rfl | exact nomatch quiet.1

def block (s : Select) : List Item :=
  match s.tokens Dialect.sqlite.rules with
  | .ok ts => (outline ts).getD []
  | .error _ => []

/-- The SELECT is written with a block of its own: it begins with its keyword and has no other operator. -/
theorem block_of_emitted {s : Select} {ts : List Token} (emitted : s.tokens Dialect.sqlite.rules = .ok ts) :
    Outlined ts (block s) ∧ (∃ rest, block s = .token (.keyword .select) :: rest) ∧
      ∀ i ∈ block s, setOperator? i = none := by
  obtain ⟨rest, rfl, is, outlined, silent⟩ := speaking_ascends.select_holds s ts emitted
  have whole : Outlined (.keyword .select :: rest) (.token (.keyword .select) :: is) := outlined.cons rfl
  have same : block s = .token (.keyword .select) :: is := by
    rw [block, emitted]
    simp [whole.outline_eq]
  rw [same]
  refine ⟨whole, ⟨is, rfl⟩, List.forall_mem_cons.2 ⟨rfl, setOperator?_of_quiet silent⟩⟩

/-- The chain read from the items is the chain of the body, block by block. -/
def ReadsAs (is : List Item) (chain : Select × List (SetOperator × Select)) : Prop :=
  readChain is = (block chain.1, chain.2.map fun x => (x.1, block x.2))

theorem setOp_read (op : SetOp) (all : Bool) {ts : List Token} {js : List Item}
    {chain : Select × List (SetOperator × Select)} (outlined : Outlined ts js) (read : ReadsAs js chain)
    (select : ∃ rest, block chain.1 = .token (.keyword .select) :: rest) :
    ∃ ks, Outlined (space :: .keyword op.keyword :: (if all then [space, .keyword .all] else []) ++ space :: ts) ks ∧
      readChain ks = ([], ((op, all), block chain.1) :: chain.2.map fun x => (x.1, block x.2)) := by
  have plain : isPlain (.keyword op.keyword) := by cases op <;> rfl
  have boundary : setOperator? (.token (.keyword op.keyword)) = some op := by cases op <;> rfl
  obtain ⟨rest, first⟩ := select
  have operands : readChain js = (block chain.1, chain.2.map fun x => (x.1, block x.2)) := read
  cases all with
  | true =>
    refine ⟨.token (.keyword op.keyword) :: .token (.keyword .all) :: js,
      ((((outlined.cons_space).cons rfl).cons_space).cons plain).cons_space, ?_⟩
    have quantified : setOperator? (.token (.keyword .all)) = none := rfl
    simp only [readChain, boundary, quantified, operands]
  | false =>
    refine ⟨.token (.keyword op.keyword) :: js, ((outlined.cons_space).cons plain).cons_space, ?_⟩
    simp only [readChain, boundary, operands, first]

mutual

theorem body_read : ∀ (b : Body) (ts : List Token), b.operandTokens Dialect.sqlite.rules = .ok ts →
    (∃ is, Outlined ts is ∧ ReadsAs is b.chain) ∧ ∃ rest, block b.chain.1 = .token (.keyword .select) :: rest
  | .select s, ts, emitted => by
    have plain : ∀ q, Body.select s ≠ .query q := nofun
    have own : s.tokens Dialect.sqlite.rules = .ok ts :=
      Body.tokens_select_ok.1 ((Body.operandTokens_bare_ok rfl plain).1 emitted)
    obtain ⟨outlined, first, single⟩ := block_of_emitted own
    exact ⟨⟨_, outlined, readChain_operand single⟩, first⟩
  | .setOp op all left right, ts, emitted => by
    have plain : ∀ q, Body.setOp op all left right ≠ .query q := nofun
    obtain ⟨a, b, hl, hr, rfl⟩ := Body.tokens_setOp_ok.1 ((Body.operandTokens_bare_ok rfl plain).1 emitted)
    obtain ⟨⟨is, outlinedLeft, readLeft⟩, first⟩ := body_read left a hl
    obtain ⟨⟨js, outlinedRight, readRight⟩, next⟩ := body_read right b hr
    obtain ⟨ks, outlined, read⟩ := setOp_read op all outlinedRight readRight next
    have layout : setOpTokens Dialect.sqlite.rules op all a b
        = a ++ (space :: .keyword op.keyword :: (if all then [space, .keyword .all] else []) ++ space :: b) := by
      cases all <;> simp [setOpTokens, Dialect.rules]
    refine ⟨⟨is ++ ks, layout ▸ outlinedLeft.append outlined, ?_⟩, first⟩
    have operands : readChain is = (block left.chain.1, left.chain.2.map fun x => (x.1, block x.2)) := readLeft
    rw [ReadsAs, readChain_append (by rw [read]), operands, read]
    simp [Body.chain]
  | .query q, ts, emitted => query_read q ts ((Body.operandTokens_bare_query_ok rfl).1 emitted).2

theorem query_read : ∀ (q : Query) (ts : List Token), q.body.operandTokens Dialect.sqlite.rules = .ok ts →
    (∃ is, Outlined ts is ∧ ReadsAs is q.chain) ∧ ∃ rest, block q.chain.1 = .token (.keyword .select) :: rest
  | ⟨_, _, body, _, _, _⟩, ts, emitted => body_read body ts emitted

end

mutual

theorem body_operand : ∀ (b : Body) (ts : List Token), b.tokens Dialect.sqlite.rules = .ok ts →
    ¬ WrapsClauses b → b.operandTokens Dialect.sqlite.rules = .ok ts
  | .select s, _, emitted, _ =>
    have plain : ∀ q, Body.select s ≠ .query q := nofun
    (Body.operandTokens_bare_ok rfl plain).2 emitted
  | .setOp op all left right, _, emitted, _ =>
    have plain : ∀ q, Body.setOp op all left right ≠ .query q := nofun
    (Body.operandTokens_bare_ok rfl plain).2 emitted
  | .query q, ts, emitted, clean => by
    rw [wrapsClauses_query, not_or, Bool.not_eq_true] at clean
    have inner := (Body.tokens_wrapper_ok clean.1).1 emitted
    exact (Body.operandTokens_bare_query_ok rfl).2 ⟨clean.1, query_operand q ts inner clean.2⟩

theorem query_operand : ∀ (q : Query) (ts : List Token), q.body.tokens Dialect.sqlite.rules = .ok ts →
    ¬ WrapsClauses q.body → q.body.operandTokens Dialect.sqlite.rules = .ok ts
  | ⟨_, _, body, _, _, _⟩, ts, emitted, clean => body_operand body ts emitted clean

end

theorem chainBag_map {α : Type} [DecidableEq α] (rows : List Item → Multiset (Record α))
    (chain : Select × List (SetOperator × Select)) :
    chainBag rows (block chain.1, chain.2.map fun x => (x.1, block x.2))
      = chainBag (fun s => rows (block s)) chain := by
  simp only [chainBag, List.foldl_map]
  rfl

/-- On SQLite a body is read as the chain of its SELECTs, whatever its grouping. For a body whose operators can
be regrouped the chain has the rows of the tree, whatever the rows of the SELECTs are. -/
theorem chain_read {α : Type} [DecidableEq α] {b : Body} {ts : List Token}
    (emitted : b.tokens Dialect.sqlite.rules = .ok ts) (clean : ¬ WrapsClauses b) :
    ∃ is, outline ts = some is ∧ ∀ rows : List Item → Multiset (Record α),
      chainBag rows (readChain is) = chainBag (fun s => rows (block s)) b.chain ∧
      (b.Regroupable → chainBag rows (readChain is) = b.bag fun s => rows (block s)) := by
  obtain ⟨⟨is, outlined, read⟩, -⟩ := body_read b ts (body_operand b ts emitted clean)
  refine ⟨is, outlined.outline_eq, fun rows => ?_⟩
  have flat : chainBag rows (readChain is) = chainBag (fun s => rows (block s)) b.chain := by
    rw [← chainBag_map rows b.chain, ← read]
  exact ⟨flat, fun h => flat.trans (chainBag_body _ b h)⟩

def oneColumn (column table : String) : Select :=
  ⟨false, [⟨.column [] column, none⟩], [⟨.table [table] none, []⟩], none, [], none⟩

/-- `SELECT a FROM t EXCEPT (SELECT b FROM u EXCEPT SELECT c FROM v)`. -/
def rightNested : Body :=
  .setOp .except false (.select (oneColumn "a" "t"))
    (.setOp .except false (.select (oneColumn "b" "u")) (.select (oneColumn "c" "v")))

def rightNestedTokens : List Token :=
  [.keyword .select, space, .ident "a", space, .keyword .from_, space, .ident "t", space, .keyword .except, space,
    .keyword .select, space, .ident "b", space, .keyword .from_, space, .ident "u", space, .keyword .except, space,
    .keyword .select, space, .ident "c", space, .keyword .from_, space, .ident "v"]

theorem rightNested_tokens : rightNested.tokens Dialect.sqlite.rules = .ok rightNestedTokens := by
  rfl

theorem rightNested_clean : ¬ WrapsClauses rightNested := by
  simp [rightNested, WrapsClauses]

theorem rightNested_chain : (rightNested.tokens Dialect.sqlite.rules = .ok rightNestedTokens ∧
    ¬ WrapsClauses rightNested) ∧ ∃ is, outline rightNestedTokens = some is ∧
      ∀ rows : List Item → Multiset (Record Unit),
        chainBag rows (readChain is) = chainBag (fun s => rows (block s)) rightNested.chain := by
  refine ⟨⟨rightNested_tokens, rightNested_clean⟩, ?_⟩
  obtain ⟨is, outlined, read⟩ := chain_read (α := Unit) rightNested_tokens rightNested_clean
  exact ⟨is, outlined, fun rows => (read rows).1⟩

/-- If the same record is in all three tables the tree has it and the chain that is read does not. -/
theorem rightNested_loses_record : rightNested.tokens Dialect.sqlite.rules = .ok rightNestedTokens ∧
    ∃ is, outline rightNestedTokens = some is ∧
      chainBag (fun _ => ({[]} : Multiset (Record Unit))) (readChain is) = 0 ∧
      (rightNested.bag fun _ => ({[]} : Multiset (Record Unit))) = {[]} := by
  refine ⟨rightNested_tokens, _, rfl, by decide, by decide⟩

end Emission

end QueryBridge
