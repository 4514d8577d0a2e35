import QueryBridge.Proofs.Tree.Rewording
import QueryBridge.Source.Lowering

set_option autoImplicit false

namespace QueryBridge.Source

/-- What becomes of names, of texts in normal form, and of what query trees do not hold. -/
structure Restyle where
  ident : Ident → Ident
  text : String → String
  options : List String → List String
  nulls : Option NullTreatment → Option NullTreatment
  clauses : List String → List String

def AliasName.restyle (k : Restyle) : AliasName → AliasName
  | ⟨name, columns⟩ => ⟨k.ident name, columns.map fun c => ⟨k.ident c.name, c.type.map k.text⟩⟩

mutual

def Expr.restyle (k : Restyle) : Expr → Expr
  | .ident name => .ident (k.ident name)
  | .path parts => .path (parts.map k.ident)
  | .value v => .value v
  | .binary op left right => .binary op (left.restyle k) (right.restyle k)
  | .signed sign operand => .signed sign (operand.restyle k)
  | .nested inner => .nested (inner.restyle k)
  | .call c => .call (c.restyle k)
  | .case operand branches otherwise =>
    .case (restyleOption k operand) (restyleBranches k branches) (restyleOption k otherwise)
  | .subquery q => .subquery (q.restyle k)
  | .exists q negated => .exists (q.restyle k) negated
  | .inList operand values negated => .inList (operand.restyle k) (restyleAll k values) negated
  | .inQuery operand q negated => .inQuery (operand.restyle k) (q.restyle k) negated
  | .between operand low high negated =>
    .between (operand.restyle k) (low.restyle k) (high.restyle k) negated
  | .isNull operand negated => .isNull (operand.restyle k) negated
  | .like operand pattern negated any escape =>
    .like (operand.restyle k) (pattern.restyle k) negated any escape
  | .cast kind operand type format => .cast kind (operand.restyle k) (k.text type) (format.map k.text)
  | .array named items => .array named (restyleAll k items)
  | .element array index => .element (array.restyle k) (index.restyle k)
  | .slice array bounds => .slice (array.restyle k) (k.text bounds)
  | .phrase text => .phrase (k.text text)

def restyleAll (k : Restyle) : List Expr → List Expr
  | [] => []
  | e :: rest => e.restyle k :: restyleAll k rest

def restyleOption (k : Restyle) : Option Expr → Option Expr
  | none => none
  | some e => some (e.restyle k)

def restyleBranches (k : Restyle) : List (Expr × Expr) → List (Expr × Expr)
  | [] => []
  | (condition, result) :: rest => (condition.restyle k, result.restyle k) :: restyleBranches k rest

def Arg.restyle (k : Restyle) : Arg → Arg
  | .expr e => .expr (e.restyle k)
  | .star => .star
  | .pathStar path => .pathStar (path.map k.ident)
  | .named text => .named (k.text text)

def restyleArgs (k : Restyle) : List Arg → List Arg
  | [] => []
  | a :: rest => a.restyle k :: restyleArgs k rest

def Args.restyle (k : Restyle) : Args → Args
  | .none => .none
  | .query q => .query (q.restyle k)
  | .list treatment args clauses => .list treatment (restyleArgs k args) (clauses.map k.text)

def Call.restyle (k : Restyle) : Call → Call
  | ⟨name, args, withinGroup, filter, nulls, windowed, braced⟩ =>
    ⟨name.map k.ident, args.restyle k, withinGroup.map k.text, filter.map k.text, k.nulls nulls,
      windowed.map k.text, braced⟩

def Item.restyle (k : Restyle) : Item → Item
  | .expr e label => .expr (e.restyle k) (label.map k.ident)
  | .star options => .star (k.options options)
  | .pathStar path options => .pathStar (path.map k.ident) (k.options options)

def restyleItems (k : Restyle) : List Item → List Item
  | [] => []
  | i :: rest => i.restyle k :: restyleItems k rest

def Relation.restyle (k : Restyle) : Relation → Relation
  | .table name args ordinality label clauses =>
    .table (name.map k.ident) (args.map k.text) ordinality (label.map (·.restyle k)) (k.clauses clauses)
  | .derived lateral q label => .derived lateral (q.restyle k) (label.map (·.restyle k))
  | .unnest exprs ordinality label offset offsetAlias =>
    .unnest (restyleAll k exprs) ordinality (label.map (·.restyle k)) offset (offsetAlias.map k.ident)
  | .phrase text label => .phrase (k.text text) (label.map (·.restyle k))
  | .group inner label => .group (inner.restyle k) (label.map (·.restyle k))

def Constraint.restyle (k : Restyle) : Constraint → Constraint
  | .on e => .on (e.restyle k)
  | .using columns => .using (columns.map k.ident)
  | .natural => .natural
  | .none => .none

def Join.restyle (k : Restyle) : Join → Join
  | ⟨global, operator, relation, nearest, constraint⟩ =>
    ⟨global, operator, relation.restyle k, restyleOption k nearest, constraint.restyle k⟩

def restyleJoins (k : Restyle) : List Join → List Join
  | [] => []
  | j :: rest => j.restyle k :: restyleJoins k rest

def FromItem.restyle (k : Restyle) : FromItem → FromItem
  | ⟨relation, joins⟩ => ⟨relation.restyle k, restyleJoins k joins⟩

def restyleSources (k : Restyle) : List FromItem → List FromItem
  | [] => []
  | s :: rest => s.restyle k :: restyleSources k rest

def Distinct.restyle (k : Restyle) : Distinct → Distinct
  | .all => .all
  | .distinct => .distinct
  | .on keys => .on (restyleAll k keys)

def Grouping.restyle (k : Restyle) : Grouping → Grouping
  | .by keys => .by (restyleAll k keys)
  | .all => .all

def Select.restyle (k : Restyle) : Select → Select
  | ⟨mode, repeated, top, items, into, sources, views, selection, grouping, tail, having, windows, qualify,
      windowsFirst, hierarchy⟩ =>
    ⟨mode.map k.text, repeated.restyle k, top.map k.text, restyleItems k items, into.map k.text,
      restyleSources k sources, views.map k.text, restyleOption k selection, grouping.restyle k, tail.map k.text,
      restyleOption k having, windows.map k.text, qualify.map k.text, windowsFirst, hierarchy.map k.text⟩

def Body.restyle (k : Restyle) : Body → Body
  | .select s => .select (s.restyle k)
  | .setOp op quantifier left right => .setOp op quantifier (left.restyle k) (right.restyle k)
  | .query q => .query (q.restyle k)
  | .phrase text => .phrase (k.text text)

def OrderItem.restyle (k : Restyle) : OrderItem → OrderItem
  | ⟨e, ascending, nullsFirst⟩ => ⟨e.restyle k, ascending, nullsFirst⟩

def restyleOrder (k : Restyle) : List OrderItem → List OrderItem
  | [] => []
  | o :: rest => o.restyle k :: restyleOrder k rest

def Cte.restyle (k : Restyle) : Cte → Cte
  | ⟨label, materialized, query, source⟩ =>
    ⟨label.restyle k, materialized.map k.text, query.restyle k, source.map k.ident⟩

def restyleCtes (k : Restyle) : List Cte → List Cte
  | [] => []
  | c :: rest => c.restyle k :: restyleCtes k rest

def Query.restyle (k : Restyle) : Query → Query
  | ⟨ctes, recursive, body, orderBy, limit, offset, offsetRows, fetch, locks, markup⟩ =>
    ⟨restyleCtes k ctes, recursive, body.restyle k, restyleOrder k orderBy, restyleOption k limit,
      restyleOption k offset, offsetRows.map k.text, fetch.map k.text, locks.map k.text, markup.map k.text⟩

end

def Statement.restyle (k : Restyle) : Statement → Statement
  | .query q => .query (q.restyle k)
  | .other text => .other (k.text text)

/-- The restyling leaves the tree as it is up to the words `w`. -/
structure Restyle.Faithful (k : Restyle) (d : Dialect) (w : String → String) : Prop where
  resolve : ∀ name, (k.ident name).resolve d = name.resolve d
  dotted : ∀ lead path, w (lead ++ dotted (path.map k.ident)) = w (lead ++ dotted path)
  text : ∀ lead s tail, w (lead ++ k.text s ++ tail) = w (lead ++ s ++ tail)
  type : ∀ s, (DataType.parse (k.text s)).reword w = (DataType.parse s).reword w
  unit : ∀ f f' args args', w f = w f' → rewordExprs w args = rewordExprs w args' →
    rewordExprs w (unitFirst d f args) = rewordExprs w (unitFirst d f' args')

section

variable {k : Restyle} {d : Dialect} {w : String → String} (h : k.Faithful d w)

include h

theorem Restyle.Faithful.resolveAll (names : List Ident) :
    resolveAll d (names.map k.ident) = resolveAll d names := by
  simp [Source.resolveAll, Function.comp_def, h.resolve]

theorem Restyle.Faithful.label (label : Option AliasName) :
    (label.map (·.restyle k)).map (·.resolve d) = label.map (·.resolve d) := by
  cases label with
  | none => rfl
  | some a => simp [AliasName.restyle, AliasName.resolve, Function.comp_def, h.resolve]

theorem Restyle.Faithful.column (label : Option Ident) :
    (label.map k.ident).map (·.resolve d) = label.map (·.resolve d) := by
  simp [Function.comp_def, h.resolve]

theorem Restyle.Faithful.phrase (s : String) : w (k.text s) = w s := by simpa using h.text "" s ""

theorem Restyle.Faithful.name (path : List Ident) :
    w (Source.dotted (path.map k.ident)) = w (Source.dotted path) := by
  have named := h.dotted "" path
  rwa [String.empty_append, String.empty_append] at named

end

section

variable {k : Restyle} {d : Dialect} {w : String → String}

mutual

theorem Expr.lower_restyle (h : k.Faithful d w) :
    ∀ e : Expr, Agree (QueryBridge.Expr.reword w) ((e.restyle k).lower d) (e.lower d)
  | .ident name => .ok (by rw [h.resolve])
  | .path parts => .ok (by rw [resolvePath, resolvePath, h.resolveAll])
  | .value v => .refl _ _
  | .binary (.known op) left right =>
    (left.lower_restyle h).map₂ (QueryBridge.Expr.binary op) (right.lower_restyle h) fun _ _ => rfl
  | .binary (.other text) left right => .refl _ _
  | .signed .not operand => (operand.lower_restyle h).map QueryBridge.Expr.not fun _ => rfl
  | .signed .minus operand => (operand.lower_restyle h).map QueryBridge.Expr.neg fun _ => rfl
  | .signed .plus operand => operand.lower_restyle h
  | .signed (.other text) operand => .refl _ _
  | .nested inner => (inner.lower_restyle h).map QueryBridge.Expr.paren fun _ => rfl
  | .call c => c.lower_restyle h
  | .case operand branches otherwise =>
    (lowerOption_restyle h operand).map₃ QueryBridge.Expr.case (lowerBranches_restyle h branches)
      (lowerOption_restyle h otherwise) fun _ _ _ => rfl
  | .subquery q => (q.lower_restyle h).map QueryBridge.Expr.subquery fun _ => rfl
  | .exists q negated => (q.lower_restyle h).map (QueryBridge.Expr.exists · negated) fun _ => rfl
  | .inList operand values negated =>
    (operand.lower_restyle h).map₂ (QueryBridge.Expr.inList · · negated) (lowerAll_restyle h values) fun _ _ => rfl
  | .inQuery operand q negated =>
    (operand.lower_restyle h).map₂ (QueryBridge.Expr.inQuery · · negated) (q.lower_restyle h) fun _ _ => rfl
  | .between operand low high negated =>
    (operand.lower_restyle h).map₃ (QueryBridge.Expr.between · · · negated) (low.lower_restyle h)
      (high.lower_restyle h) fun _ _ _ => rfl
  | .isNull operand negated => (operand.lower_restyle h).map (QueryBridge.Expr.isNull · negated) fun _ => rfl
  | .like operand pattern negated any (some escape) => .refl _ _
  | .like operand pattern negated any none =>
    (operand.lower_restyle h).map₂ (QueryBridge.Expr.like · · negated) (pattern.lower_restyle h) fun _ _ => rfl
  | .cast kind operand type format => by
    simp only [Expr.restyle, Expr.lower, Option.map_eq_none_iff]
    split
    · exact (operand.lower_restyle h).bind fun e e' he => .ok (congrArg₂ QueryBridge.Expr.cast he (h.type type))
    · exact .refl _ _
  | .array named items => (lowerAll_restyle h items).map QueryBridge.Expr.array fun _ => rfl
  | .element array index =>
    (array.lower_restyle h).map₂ QueryBridge.Expr.index (index.lower_restyle h) fun _ _ => rfl
  | .slice array bounds => .ok (congrArg QueryBridge.Expr.unsupported (h.text "array slice [" bounds "]"))
  | .phrase text => .ok (congrArg QueryBridge.Expr.unsupported (h.phrase text))

theorem lowerAll_restyle (h : k.Faithful d w) :
    ∀ es, Agree (rewordExprs w) (lowerAll d (restyleAll k es)) (lowerAll d es)
  | [] => .refl _ _
  | e :: rest => (e.lower_restyle h).map₂ List.cons (lowerAll_restyle h rest) fun _ _ => rfl

theorem lowerOption_restyle (h : k.Faithful d w) :
    ∀ o, Agree (rewordOption w) (lowerOption d (restyleOption k o)) (lowerOption d o)
  | none => .refl _ _
  | some e => (e.lower_restyle h).map some fun _ => rfl

theorem lowerBranches_restyle (h : k.Faithful d w) :
    ∀ bs, Agree (rewordBranches w) (lowerBranches d (restyleBranches k bs)) (lowerBranches d bs)
  | [] => .refl _ _
  | (condition, result) :: rest =>
    (condition.lower_restyle h).map₃ (fun c t bs => (c, t) :: bs) (result.lower_restyle h)
      (lowerBranches_restyle h rest) fun _ _ _ => rfl

theorem Arg.lower_restyle (h : k.Faithful d w) :
    ∀ a : Arg, Agree (QueryBridge.Expr.reword w) ((a.restyle k).lower d) (a.lower d)
  | .expr e => e.lower_restyle h
  | .star => .refl _ _
  | .pathStar path => .ok (by rw [h.resolveAll])
  | .named text =>
    .ok (congrArg QueryBridge.Expr.unsupported (by simpa using h.text "named argument " text ""))

theorem lowerArgs_restyle (h : k.Faithful d w) :
    ∀ as, Agree (rewordExprs w) (lowerArgs d (restyleArgs k as)) (lowerArgs d as)
  | [] => .refl _ _
  | a :: rest => (a.lower_restyle h).map₂ List.cons (lowerArgs_restyle h rest) fun _ _ => rfl

theorem Args.lower_restyle (h : k.Faithful d w) (path : List Ident) :
    ∀ as : Args, Agree (QueryBridge.Expr.reword w) ((as.restyle k).lower d (dotted (path.map k.ident)))
      (as.lower d (dotted path))
  | .none => .ok (congrArg QueryBridge.Expr.keyword (h.name path))
  | .query q => (q.lower_restyle h).bind fun t t' ht => .ok <| by
    have args := h.unit _ _ [.subquery t] [.subquery t'] (h.name path)
      (by simp [rewordExprs, QueryBridge.Expr.reword, ht])
    simp only [QueryBridge.Expr.reword, h.name, args]
  | .list treatment args clauses => by
    simp only [Args.restyle, Args.lower, List.isEmpty_map]
    split
    · refine (lowerArgs_restyle h args).bind fun es es' hes => .ok ?_
      simp only [QueryBridge.Expr.reword, h.name, h.unit _ _ es es' (h.name path) hes]
    · exact .ok (congrArg QueryBridge.Expr.unsupported (h.dotted "argument clauses on " path))

theorem Call.lower_restyle (h : k.Faithful d w) :
    ∀ c : Call, Agree (QueryBridge.Expr.reword w) ((c.restyle k).lower d) (c.lower d)
  | ⟨name, args, withinGroup, filter, nulls, windowed, braced⟩ => by
    simp only [Call.restyle, Call.lower, Option.isSome_map]
    split
    · exact .ok (congrArg QueryBridge.Expr.unsupported (h.dotted "window function " name))
    · split
      · exact .ok (congrArg QueryBridge.Expr.unsupported (h.dotted "aggregate clauses on " name))
      · exact args.lower_restyle h name

theorem Item.lower_restyle (h : k.Faithful d w) :
    ∀ i : Item, Agree (SelectItem.reword w) ((i.restyle k).lower d) (i.lower d)
  | .expr e label => (e.lower_restyle h).bind fun t t' ht => .ok (by
      rw [h.column, SelectItem.reword, SelectItem.reword, ht])
  | .star options => .refl _ _
  | .pathStar path options => .ok (by rw [h.resolveAll])

theorem lowerItems_restyle (h : k.Faithful d w) :
    ∀ is, Agree (rewordItems w) (lowerItems d (restyleItems k is)) (lowerItems d is)
  | [] => .refl _ _
  | i :: rest => (i.lower_restyle h).map₂ List.cons (lowerItems_restyle h rest) fun _ _ => rfl

theorem Relation.lower_restyle (h : k.Faithful d w) :
    ∀ r : Relation, Agree (QueryBridge.Relation.reword w) ((r.restyle k).lower d) (r.lower d)
  | .table name args ordinality label clauses => by
    simp only [Relation.restyle, Relation.lower, Option.isSome_map, h.resolveAll, h.label]
    split
    · exact .error _ _ _
    · exact .refl _ _
  | .derived true q label => .refl _ _
  | .derived false q label => (q.lower_restyle h).bind fun t t' ht => .ok (by
      rw [h.label, QueryBridge.Relation.reword, QueryBridge.Relation.reword, ht])
  | .unnest exprs ordinality label offset offsetAlias => by
    simp only [Relation.restyle, Relation.lower, h.label]
    split
    · exact .refl _ _
    · exact (lowerAll_restyle h exprs).map (QueryBridge.Relation.unnest · _) fun _ => rfl
  | .phrase text label => .error _ _ _
  | .group inner label => .error _ _ _

theorem Constraint.lower_restyle (h : k.Faithful d w) :
    ∀ c : Constraint, Agree (QueryBridge.JoinConstraint.reword w) ((c.restyle k).lower d) (c.lower d)
  | .on e => (e.lower_restyle h).map QueryBridge.JoinConstraint.on fun _ => rfl
  | .using columns => .ok (by rw [h.resolveAll])
  | .natural => .refl _ _
  | .none => .refl _ _

theorem Join.lower_restyle (h : k.Faithful d w) :
    ∀ j : Join, Agree (QueryBridge.Join.reword w) ((j.restyle k).lower d) (j.lower d)
  | ⟨global, operator, relation, nearest, constraint⟩ => by
    simp only [Join.restyle, Join.lower]
    split
    · exact .error _ _ _
    · rename_i type _
      exact (constraint.lower_restyle h).map₂ (fun c r => QueryBridge.Join.mk type r c) (relation.lower_restyle h)
        fun _ _ => rfl

theorem lowerJoins_restyle (h : k.Faithful d w) :
    ∀ js, Agree (rewordJoins w) (lowerJoins d (restyleJoins k js)) (lowerJoins d js)
  | [] => .refl _ _
  | j :: rest => (j.lower_restyle h).map₂ List.cons (lowerJoins_restyle h rest) fun _ _ => rfl

theorem FromItem.lower_restyle (h : k.Faithful d w) :
    ∀ f : FromItem, Agree (QueryBridge.FromItem.reword w) ((f.restyle k).lower d) (f.lower d)
  | ⟨relation, joins⟩ =>
    (relation.lower_restyle h).map₂ QueryBridge.FromItem.mk (lowerJoins_restyle h joins) fun _ _ => rfl

theorem lowerSources_restyle (h : k.Faithful d w) :
    ∀ fs, Agree (rewordSources w) (lowerSources d (restyleSources k fs)) (lowerSources d fs)
  | [] => .refl _ _
  | f :: rest => (f.lower_restyle h).map₂ List.cons (lowerSources_restyle h rest) fun _ _ => rfl

theorem Grouping.lower_restyle (h : k.Faithful d w) :
    ∀ g : Grouping, Agree (rewordExprs w) ((g.restyle k).lower d) (g.lower d)
  | .by keys => lowerAll_restyle h keys
  | .all => .refl _ _

theorem Select.lower_restyle (h : k.Faithful d w) :
    ∀ s : Select, Agree (QueryBridge.Select.reword w) ((s.restyle k).lower d) (s.lower d)
  | ⟨mode, repeated, top, items, into, sources, views, selection, grouping, tail, having, windows, qualify,
      windowsFirst, hierarchy⟩ => by
    have same : (repeated.restyle k).lower = repeated.lower := by cases repeated <;> rfl
    simp only [Select.restyle, Select.lower, same, Option.isSome_map]
    refine (Agree.refl id _).bind fun distinct _ hd => ?_
    obtain rfl : distinct = _ := hd
    refine (Agree.refl id _).bind fun _ _ _ => (Agree.refl id _).bind fun _ _ _ =>
      (Agree.refl id _).bind fun _ _ _ => ?_
    refine (lowerItems_restyle h items).bind fun p p' hp => (lowerSources_restyle h sources).bind fun f f' hf =>
      (grouping.lower_restyle h).bind fun g g' hg => (lowerOption_restyle h selection).bind fun c c' hc =>
      (lowerOption_restyle h having).bind fun t t' ht => .ok ?_
    simp only [QueryBridge.Select.reword, hp, hf, hg, hc, ht]

theorem Body.lower_restyle (h : k.Faithful d w) :
    ∀ b : Body, Agree (QueryBridge.Body.reword w) ((b.restyle k).lower d) (b.lower d)
  | .select s => (s.lower_restyle h).map QueryBridge.Body.select fun _ => rfl
  | .query q => (q.lower_restyle h).map QueryBridge.Body.query fun _ => rfl
  | .setOp op quantifier left right => (Agree.refl id (keepsDuplicates quantifier)).bind fun all _ same => by
    obtain rfl : all = _ := same
    exact (left.lower_restyle h).map₂ (QueryBridge.Body.setOp op all) (right.lower_restyle h) fun _ _ => rfl
  | .phrase text => .error _ _ _

theorem OrderItem.lower_restyle (h : k.Faithful d w) :
    ∀ o : OrderItem, Agree (QueryBridge.OrderItem.reword w) ((o.restyle k).lower d) (o.lower d)
  | ⟨e, ascending, nullsFirst⟩ =>
    (e.lower_restyle h).map (QueryBridge.OrderItem.mk · (ascending.map sortDir) (nullsFirst.map nullsOrder))
      fun _ => rfl

theorem lowerOrder_restyle (h : k.Faithful d w) :
    ∀ os, Agree (rewordOrder w) (lowerOrder d (restyleOrder k os)) (lowerOrder d os)
  | [] => .refl _ _
  | o :: rest => (o.lower_restyle h).map₂ List.cons (lowerOrder_restyle h rest) fun _ _ => rfl

theorem Cte.lower_restyle (h : k.Faithful d w) :
    ∀ c : Cte, Agree (QueryBridge.Cte.reword w) ((c.restyle k).lower d) (c.lower d)
  | ⟨label, materialized, query, source⟩ => (query.lower_restyle h).bind fun q q' hq => .ok (by
      have same : (label.restyle k).resolve d = label.resolve d := by simpa using h.label (some label)
      have name : (label.restyle k).name.resolve d = label.name.resolve d := congrArg TableAlias.name same
      rw [same, name, QueryBridge.Cte.reword, QueryBridge.Cte.reword, hq])

theorem lowerCtes_restyle (h : k.Faithful d w) :
    ∀ cs, Agree (rewordCtes w) (lowerCtes d (restyleCtes k cs)) (lowerCtes d cs)
  | [] => .refl _ _
  | c :: rest => (c.lower_restyle h).map₂ List.cons (lowerCtes_restyle h rest) fun _ _ => rfl

theorem Query.lower_restyle (h : k.Faithful d w) :
    ∀ q : Query, Agree (QueryBridge.Query.reword w) ((q.restyle k).lower d) (q.lower d)
  | ⟨ctes, recursive, body, orderBy, limit, offset, offsetRows, fetch, locks, markup⟩ => by
    simp only [Query.restyle, Query.lower, Option.isSome_map, List.isEmpty_map]
    refine (Agree.refl id _).bind fun _ _ _ => (Agree.refl id _).bind fun _ _ _ => ?_
    refine (lowerCtes_restyle h ctes).bind fun c c' hc => (lowerOrder_restyle h orderBy).bind fun o o' ho =>
      (body.lower_restyle h).bind fun b b' hb => (lowerOption_restyle h limit).bind fun l l' hl =>
      (lowerOption_restyle h offset).bind fun f f' hf => .ok ?_
    simp only [QueryBridge.Query.reword, hc, ho, hb, hl, hf]

end

end

/-- The tree of the one query among the statements of a text, if it has statements. -/
def lowerStatements (d : Dialect) : Option (List Statement) → Except ReadError QueryBridge.Query
  | none => .error .malformed
  | some [.query q] => q.lower d
  | some [.other statement] => .error (.notAQuery statement)
  | some statements => .error (.statementCount statements.length)

theorem read_eq (d : Dialect) (text : String) :
    QueryBridge.Query.read d text = lowerStatements d (parse? d text) := by
  unfold QueryBridge.Query.read lowerStatements
  cases parse? d text with
  | none => rfl
  | some statements => rcases statements with _ | ⟨_ | _, _ | _⟩ <;> rfl

def restyleStatements (k : Restyle) (statements : Option (List Statement)) : Option (List Statement) :=
  statements.map (List.map (Statement.restyle k))

section

variable {k : Restyle} {d : Dialect} {w : String → String}

theorem lowerStatements_restyle (h : k.Faithful d w) (statements : Option (List Statement)) :
    Agree (QueryBridge.Query.reword w) (lowerStatements d (restyleStatements k statements))
      (lowerStatements d statements) := by
  match statements with
  | none => exact .error _ _ _
  | some [] => exact .error _ _ _
  | some [.query q] => exact q.lower_restyle h
  | some [.other text] => exact .error _ _ _
  | some (first :: _ :: _) => cases first <;> exact .error _ _ _

theorem lowerStatements_agree (h : k.Faithful d w) {s s' : Option (List Statement)}
    (same : restyleStatements k s = restyleStatements k s') :
    Agree (QueryBridge.Query.reword w) (lowerStatements d s) (lowerStatements d s') :=
  (lowerStatements_restyle h s).symm.trans (same ▸ lowerStatements_restyle h s')

end

end QueryBridge.Source
