import QueryBridge.Proofs.Passes.Conversion
import QueryBridge.Tree.Builder
import QueryBridge.Tree.Relations

set_option autoImplicit false

namespace QueryBridge

open Passes (whereConjuncts)

inductive BuilderCall where
  | select (items : List SelectItem)
  | distinct
  | addSource (r : Relation)
  | join (type : JoinType) (r : Relation) (constraint : JoinConstraint)
  | filter (condition : Expr)
  | groupBy (keys : List Expr)
  | having (condition : Expr)
  | withOrder (items : List OrderItem)
  | withLimit (n : UInt64)
  | withOffset (n : UInt64)
  | withCte (cte : Cte)

namespace BuilderCall

def apply (q : Query) : BuilderCall → Query
  | select items => q.select items
  | distinct => q.distinct
  | addSource r => q.addSource r
  | join type r constraint => q.join type r constraint
  | filter condition => q.filter condition
  | groupBy keys => q.groupBy keys
  | having condition => q.having condition
  | withOrder items => q.withOrder items
  | withLimit n => q.withLimit n
  | withOffset n => q.withOffset n
  | withCte cte => q.withCte cte

def onSelect : BuilderCall → Bool
  | withOrder _ | withLimit _ | withOffset _ | withCte _ => false
  | _ => true

/-- The relations that the call adds to the FROM clause. -/
def relations : BuilderCall → List Relation
  | addSource r | join _ r _ => [r]
  | _ => []

/-- The conjuncts that the call adds to the WHERE clause. -/
def conditions : BuilderCall → List Expr
  | filter condition => condition.conjuncts
  | _ => []

def change (c : BuilderCall) (s : Select) : Select := (c.apply (.ofSelect s)).leftmost

end BuilderCall

namespace Query

def build (q : Query) (calls : List BuilderCall) : Query := calls.foldl BuilderCall.apply q

/-- The relations in the FROM clause of the query's own SELECT. -/
def ownRelations (q : Query) : List Relation :=
  match q.body with
  | .select s => s.sources.flatMap fun item => item.relation :: item.joins.map (·.relation)
  | _ => []

/-- `SELECT *` from the query. -/
def selectAll (inner : Query) : Query where
  ctes := []
  recursive := false
  body := .select {
    distinct := false
    projection := [⟨.star [], none⟩]
    sources := [⟨.derived inner none, []⟩]
    selection := none
    groupBy := []
    having := none }
  orderBy := []
  limit := none
  offset := none

/-- The conjuncts of the WHERE clause of the query's own SELECT. -/
def conditions (q : Query) : List Expr := (q.select?.map whereConjuncts).getD []

end Query

/-- Puts another relation in the place of the first one. -/
def Select.withFirst (r : Relation) (s : Select) : Select :=
  match s.sources with
  | [] => s
  | item :: rest => { s with sources := { item with relation := r } :: rest }

def Query.withFirst (r : Relation) (q : Query) : Query :=
  match q.body with
  | .select s => { q with body := .select (s.withFirst r) }
  | _ => q

variable {q : Query} {s : Select} {c : BuilderCall} {calls : List BuilderCall} {r : Relation}

theorem Query.select?_eq_some : q.select? = some s ↔ q.body = .select s := by
  unfold Query.select?
  cases q.body <;> simp

namespace BuilderCall

theorem apply_own (own : q.body = .select s) (h : c.onSelect) :
    c.apply q = { q with body := .select (c.change s) } := by
  obtain ⟨ctes, recursive, body, orderBy, limit, offset⟩ := q
  cases own
  cases c <;> first | rfl | cases h

theorem change_clause (h : c.onSelect = false) : c.change s = s := by
  cases c <;> first | rfl | cases h

theorem body_clause (h : c.onSelect = false) : (c.apply q).body = q.body := by
  cases c <;> first | rfl | cases h

theorem apply_bare (bare : q.select? = none) (h : c.onSelect) : c.apply q = .ofSelect (c.change q.wrapped) := by
  have around (f : Select → Select) : q.mapSelect f = .ofSelect (f q.wrapped) := by
    unfold Query.select? at bare
    unfold Query.mapSelect
    split
    · simp_all
    · rfl
  cases c with
  | withOrder | withLimit | withOffset | withCte => cases h
  | _ => exact around _

theorem apply_withBody (h : c.onSelect = false) (b : Body) :
    c.apply { q with body := b } = { c.apply q with body := b } := by
  cases c <;> first | rfl | cases h

theorem relations_addJoin (j : Join) (items : List FromItem) :
    (Query.addJoin j items).flatMap (·.relations) = items.flatMap (·.relations) ++ [j.relation] := by
  induction items using Query.addJoin.induct with
  | case1 => rfl
  | case2 item => simp [Query.addJoin, FromItem.relations]
  | case3 item rest more ih =>
    rw [Query.addJoin, List.flatMap_cons, ih, List.flatMap_cons, List.append_assoc]
    exact more

theorem relations_change (c : BuilderCall) (s : Select) : (c.change s).relations = s.relations ++ c.relations := by
  cases c with
  | addSource r => exact List.flatMap_append
  | join type r constraint => exact relations_addJoin ⟨type, r, constraint⟩ s.sources
  | _ => exact (List.append_nil _).symm

theorem whereConjuncts_change (c : BuilderCall) (s : Select) :
    whereConjuncts (c.change s) = whereConjuncts s ++ c.conditions := by
  cases c with
  | filter condition =>
    obtain ⟨distinct, projection, sources, selection, groupBy, having⟩ := s
    cases selection with
    | none => rfl
    | some present => rfl
  | _ => exact (List.append_nil _).symm

theorem change_withFirst (c : BuilderCall) (present : s.sources ≠ []) :
    c.change (s.withFirst r) = (c.change s).withFirst r ∧ (c.change s).sources ≠ [] := by
  obtain ⟨distinct, projection, sources, selection, groupBy, having⟩ := s
  cases sources with
  | nil => exact (present rfl).elim
  | cons item rest =>
    cases c with
    | join type r' constraint => cases rest <;> exact ⟨rfl, List.cons_ne_nil _ _⟩
    | _ => exact ⟨rfl, List.cons_ne_nil _ _⟩

end BuilderCall

namespace Query

theorem build_cons : q.build (c :: calls) = (c.apply q).build calls := rfl

theorem build_append (q : Query) (before after : List BuilderCall) :
    q.build (before ++ after) = (q.build before).build after := List.foldl_append

theorem build_own (own : q.body = .select s) (calls : List BuilderCall) :
    (q.build calls).body = .select (calls.foldl (fun s c => c.change s) s) := by
  induction calls generalizing q s with
  | nil => exact own
  | cons c calls ih =>
    rw [build_cons, List.foldl_cons]
    refine ih ?_
    cases h : c.onSelect with
    | true => rw [c.apply_own own h]
    | false => rw [c.body_clause h, own, c.change_clause h]

theorem body_build (h : ∀ c ∈ calls, c.onSelect = false) : (q.build calls).body = q.body := by
  induction calls generalizing q with
  | nil => rfl
  | cons c calls ih =>
    obtain ⟨first, rest⟩ := List.forall_mem_cons.1 h
    rw [build_cons, ih rest, c.body_clause first]

theorem build_withBody (own : q.body = .select s) (calls : List BuilderCall) (b : Body) :
    { q.build calls with body := b } = ({ q with body := b } : Query).build (calls.filter (!·.onSelect)) := by
  induction calls generalizing q s with
  | nil => rfl
  | cons c calls ih =>
    cases h : c.onSelect with
    | true =>
      have aside : { c.apply q with body := b } = ({ q with body := b } : Query) := by rw [c.apply_own own h]
      rw [build_cons, ih (congrArg body (c.apply_own own h)), aside, List.filter_cons_of_neg (by simp [h])]
    | false =>
      have same : (c.apply q).body = .select s := (c.body_clause h).trans own
      rw [build_cons, ih same, List.filter_cons_of_pos (by simp [h]), build_cons, c.apply_withBody h]

theorem apply_withFirst (own : q.body = .select s) (present : s.sources ≠ []) :
    c.apply (q.withFirst r) = (c.apply q).withFirst r := by
  obtain ⟨ctes, recursive, body, orderBy, limit, offset⟩ := q
  cases own
  cases h : c.onSelect with
  | true =>
    rw [withFirst, c.apply_own rfl h, c.apply_own rfl h, withFirst, (c.change_withFirst present).1]
  | false => cases c <;> first | rfl | cases h

theorem build_withFirst (own : q.body = .select s) (present : s.sources ≠ []) (calls : List BuilderCall) :
    (q.withFirst r).build calls = (q.build calls).withFirst r := by
  induction calls generalizing q s with
  | nil => rfl
  | cons c calls ih =>
    rw [build_cons, build_cons, apply_withFirst own present]
    cases h : c.onSelect with
    | true => exact ih (congrArg body (c.apply_own own h)) (c.change_withFirst (r := r) present).2
    | false => exact ih ((c.body_clause h).trans own) present

theorem conditions_apply (c : BuilderCall) (q : Query) : (c.apply q).conditions = q.conditions ++ c.conditions := by
  cases h : c.onSelect with
  | false =>
    have none : c.conditions = [] := by cases c <;> first | rfl | cases h
    rw [none, List.append_nil, conditions, conditions, select?, select?, c.body_clause h]
  | true =>
    cases own : q.select? with
    | some s =>
      rw [c.apply_own (select?_eq_some.1 own) h, conditions, conditions, own]
      exact c.whereConjuncts_change s
    | none =>
      rw [c.apply_bare own h, conditions, conditions, own]
      exact c.whereConjuncts_change q.wrapped

theorem conditions_build (q : Query) (calls : List BuilderCall) :
    (q.build calls).conditions = q.conditions ++ calls.flatMap (·.conditions) := by
  induction calls generalizing q with
  | nil => exact (List.append_nil _).symm
  | cons c calls ih => rw [build_cons, ih, conditions_apply, List.flatMap_cons, List.append_assoc]

/-- How the calls wrap a query in another one. -/
structure WrappedIn (inner outer : Query) (calls : List BuilderCall) : Prop where
  /-- The calls are made on `SELECT *` from the query. -/
  around : outer = (selectAll inner).build calls
  /-- The FROM clause begins with the query as it was and goes on with what the calls add. -/
  relations : outer.ownRelations = .derived inner none :: calls.flatMap (·.relations)
  /-- The query stands nowhere else: in its place any other one can stand that the calls wrap. -/
  elsewhere : ∀ other : Query, other.select? = none → outer.withFirst (.derived other none) = other.build calls
  /-- Around the SELECT are the clauses that the calls bring. -/
  clauses : ∀ b : Body, { outer with body := b } = (ofBody b).build (calls.filter (!·.onSelect))

theorem relations_foldl (s : Select) (calls : List BuilderCall) :
    (calls.foldl (fun s c => c.change s) s).relations = s.relations ++ calls.flatMap (·.relations) := by
  induction calls generalizing s with
  | nil => exact (List.append_nil _).symm
  | cons c calls ih =>
    rw [List.foldl_cons, ih, c.relations_change, List.flatMap_cons, List.append_assoc]

theorem build_wraps (bare : q.select? = none) (first : c.onSelect) (calls : List BuilderCall) :
    q.WrappedIn (q.build (c :: calls)) (c :: calls) := by
  have started {p : Query} (h : p.select? = none) :
      p.build (c :: calls) = (ofSelect (c.change p.wrapped)).build calls := by
    rw [build_cons, c.apply_bare h first]
  have present : q.wrapped.sources ≠ [] := List.cons_ne_nil _ _
  refine ⟨?_, ?_, fun other h => ?_, fun b => ?_⟩
  · rw [started bare, build_cons, c.apply_own rfl first]
    rfl
  · have own := (congrArg body (started bare)).trans (build_own rfl calls)
    rw [ownRelations, own]
    change (calls.foldl (fun s c => c.change s) (c.change q.wrapped)).relations = _
    rw [relations_foldl, c.relations_change, List.append_assoc, List.flatMap_cons]
    rfl
  · have moved := c.change_withFirst (r := .derived other none) present
    rw [started bare, started h, ← build_withFirst rfl moved.2]
    exact congrArg (fun s => (ofSelect s).build calls) moved.1.symm
  · rw [started bare, build_withBody rfl, List.filter_cons_of_neg (by simp [first])]
    rfl

/-- Whatever the calls, the conjuncts of the WHERE clause are those present before and then those of each
condition in the order of the calls. The first call about a clause of the SELECT wraps a query that has no SELECT
of its own, with the clauses that earlier calls gave it; later calls leave it where and as it is. -/
theorem calls_wrap_once (q : Query) (calls : List BuilderCall) :
    (q.build calls).conditions = q.conditions ++ calls.flatMap (·.conditions) ∧
    ∀ before first after, calls = before ++ first :: after → q.select? = none →
      (∀ c ∈ before, c.onSelect = false) → first.onSelect →
        (q.build before).body = q.body ∧ (q.build before).WrappedIn (q.build calls) (first :: after) := by
  refine ⟨conditions_build q calls, ?_⟩
  rintro before first after rfl bare outside onSelect
  have kept : (q.build before).body = q.body := body_build outside
  have stillBare : (q.build before).select? = none := by rw [select?, kept]; exact bare
  refine ⟨kept, ?_⟩
  rw [build_append]
  exact build_wraps stillBare onSelect after

/-- `SELECT a FROM t UNION ALL SELECT b FROM u`. -/
def unionOfTwo : Query :=
  .setOperation .union true ((empty.select [⟨.name "a", none⟩]).addSource (.named "t"))
    ((empty.select [⟨.name "b", none⟩]).addSource (.named "u"))

/-- The limit of 10 is that of the union, the one of 5 stands outside. -/
theorem unionOfTwo_wrapped : (unionOfTwo.select? = none ∧ (BuilderCall.withLimit 10).onSelect = false ∧
      (BuilderCall.filter (.name "a")).onSelect) ∧
    let outer := unionOfTwo.build [.withLimit 10, .filter (.name "a"), .addSource (.named "v"), .withLimit 5,
      .filter ((Expr.name "b").and (.name "c"))]
    outer.conditions = [.name "a", .name "b", .name "c"] ∧
    outer.ownRelations = [.derived (unionOfTwo.withLimit 10) none, .named "v"] ∧ outer.limit = some (.int 5) := by
  obtain ⟨conditions, wraps⟩ := calls_wrap_once unionOfTwo [.withLimit 10, .filter (.name "a"),
    .addSource (.named "v"), .withLimit 5, .filter ((Expr.name "b").and (.name "c"))]
  obtain ⟨-, wrapped⟩ := wraps [.withLimit 10] (.filter (.name "a")) _ rfl rfl
    (List.forall_mem_singleton.2 rfl) rfl
  exact ⟨⟨rfl, rfl, rfl⟩, conditions, wrapped.relations, rfl⟩

end Query

end QueryBridge
