import QueryBridge.Proofs.Passes.Separation

set_option autoImplicit false

/-! A reference is in scope if the last part of its qualifier is the name of a relation of an enclosing
FROM clause. The outer side of a key leaves the scope of the subquery; its columns are looked at,
its stars are not. -/

namespace QueryBridge.Passes

def target? (e : Expr) : Option String := (qualifier? e).bind List.getLast?

def InScope (names : List String) (e : Expr) : Prop := ∀ name ∈ target? e, name ∈ names

instance (names : List String) : DecidablePred (InScope names) := fun e =>
  inferInstanceAs (Decidable (∀ name ∈ target? e, name ∈ names))

/-- Every qualified column and every qualified star names a relation of an enclosing FROM clause. -/
def Scoped (q : Query) : Prop := ∀ x ∈ q.nodes namesInScope [], x.onLeaves InScope

instance : DecidablePred Scoped := fun q =>
  inferInstanceAs (Decidable (∀ x ∈ q.nodes namesInScope [], Node.onLeaves InScope x))

/-- The stars of a SELECT that stand in an equality of its WHERE clause and name one of its own relations, or
have the name of a join. -/
def ownStars (s : Select) : List (List String) :=
  (whereConjuncts s).flatMap fun
    | .binary .eq left right => (starQualifiers (.binary .eq left right)).filter fun qualifier =>
      qualifier.getLast?.any fun name => (relationNames s.sources).contains name || isGenerated name
    | _ => []

/-- Such stars in the subquery of an EXISTS. -/
def strayStars (q : Query) : List (List String) :=
  (q.nodes namesInScope []).flatMap fun
    | .select _ s => (existsSelects s).flatMap ownStars
    | _ => []

theorem mem_ownStars {s : Select} {left right : Expr} (he : .binary .eq left right ∈ whereConjuncts s)
    {qualifier : List String} (star : qualifier ∈ starQualifiers (.binary .eq left right)) {name : String}
    (last : name ∈ qualifier.getLast?) (own : name ∈ relationNames s.sources ∨ isGenerated name) :
    qualifier ∈ ownStars s := by
  refine List.mem_flatMap.2 ⟨_, he, List.mem_filter.2 ⟨star, ?_⟩⟩
  rw [Option.any_eq_true]
  exact ⟨name, last, by simpa using own⟩

theorem mem_strayStars {q : Query} {names : List String} {s inner : Select}
    (hs : .select names s ∈ q.nodes namesInScope []) (hi : inner ∈ existsSelects s) {qualifier : List String}
    (star : qualifier ∈ ownStars inner) : qualifier ∈ strayStars q :=
  List.mem_flatMap.2 ⟨_, hs, List.mem_flatMap.2 ⟨inner, hi, star⟩⟩

theorem InScope.mono {names names' : List String} (sub : names ⊆ names') {e : Expr} (h : InScope names e) :
    InScope names' e := fun name named => sub (h name named)

theorem inScope_of_not_reference {names : List String} {e : Expr} (h : qualifier? e = none) : InScope names e := by
  intro name named
  simp [target?, h] at named

section

variable {n j k : Nat} {a a' b : Select}

theorem Converted.names {outer : List String} {es kept : List Expr} {joins : List Join}
    (h : Converted outer n es joins kept k) {i : Nat} (low : n ≤ i) (high : i < k) :
    existsName i ∈ joins.filterMap (·.relation.referenceName?) := by
  induction h with
  | nil => omega
  | @join n k q join es joins kept hj rest ih =>
    obtain ⟨_, _, -, -, -, rfl⟩ := semiJoin?_eq_some.1 hj
    change existsName i ∈ existsName n :: joins.filterMap _
    by_cases first : i = n
    · rw [first]
      exact List.mem_cons_self
    · exact List.mem_cons_of_mem _ (ih (by omega) high)
  | keep _ _ ih => exact ih low high

theorem Left.existsName_mem (h : Left n a b k) {i : Nat} (low : n ≤ i) (high : i < k) :
    existsName i ∈ relationNames b.sources := by
  cases h with
  | same => omega
  | joined hs _ _ _ conv =>
    rw [relationNames_joined]
    exact List.mem_append_right _ (conv.names low high)

theorem Left.relationNames_subset (h : Left n a b k) : relationNames a.sources ⊆ relationNames b.sources := by
  cases h with
  | same => exact List.Subset.refl _
  | joined hs _ _ _ _ =>
    rw [relationNames_joined, ← hs]
    exact List.subset_append_left _ _

theorem relationNames_subset_rewrite (h : Yields (a.rewrite decorrelated ()) n b k) :
    relationNames a.sources ⊆ relationNames b.sources := by
  obtain ⟨a', j, parts, leave⟩ := Select.yields_rewrite.1 h
  rw [← relationNames_rewriteParts parts]
  exact (yields_leaveSelect leave).relationNames_subset

theorem enterQuery_subset_rewrite {q q' : Query} (h : Yields (q.rewrite decorrelated ()) n q' k)
    {t t' : List String} (around : t ⊆ t') : namesInScope.enterQuery t q ⊆ namesInScope.enterQuery t' q' := by
  refine List.append_subset.2 ⟨List.Subset.trans around (List.subset_append_left _ _), ?_⟩
  refine List.Subset.trans ?_ (List.subset_append_right _ _)
  cases present : q.select? with
  | none => exact List.nil_subset _
  | some s =>
    obtain ⟨s', i, j, hs', hy⟩ := Query.select_of_rewrite
      (fun hq => by rw [(Outcomes.yields_pure.1 hq).1]) h present
    rw [hs']
    exact relationNames_subset_rewrite hy

end

/-- A leaf that is looked at with the names `more` added around it sees at most these in addition. -/
def SeesBeyond (more : List String) (L : List String → List (Node (List String))) : Prop :=
  ∀ t t', t' ⊆ t ++ more → ∀ names e, .leaf names e ∈ L t → ∃ names', .leaf names' e ∈ L t' ∧
    names' ⊆ names ++ more

theorem seesBeyond_gathers (more : List String) : namesInScope.Gathers (SeesBeyond more) := by
  have grows {t t' : List String} (own : List String) (h : t' ⊆ t ++ more) :
      t' ++ own ⊆ (t ++ own) ++ more := by
    intro name hn
    rcases List.mem_append.1 hn with around | inside
    · rcases List.mem_append.1 (h around) with seen | added
      · exact List.mem_append_left _ (List.mem_append_left _ seen)
      · exact List.mem_append_right _ added
    · exact List.mem_append_left _ (List.mem_append_right _ inside)
  constructor
  · intro t t' _ names e he
    cases he
  · intro L M hL hM t t' sub names e he
    rcases List.mem_append.1 he with he | he
    · obtain ⟨names', he', sub'⟩ := hL t t' sub names e he
      exact ⟨names', List.mem_append_left _ he', sub'⟩
    · obtain ⟨names', he', sub'⟩ := hM t t' sub names e he
      exact ⟨names', List.mem_append_right _ he', sub'⟩
  · intro e leaf t t' sub names e' he
    cases List.mem_singleton.1 he
    exact ⟨t', List.mem_singleton_self _, sub⟩
  · intro r parts t t' sub names e he
    obtain ⟨names', he', sub'⟩ := parts t t' sub names e (by simpa using he)
    exact ⟨names', List.mem_cons_of_mem _ he', sub'⟩
  · intro s parts t t' sub names e he
    obtain ⟨names', he', sub'⟩ := parts (namesInScope.enterSelect t s) (namesInScope.enterSelect t' s)
      (grows _ sub) names e (by simpa using he)
    exact ⟨names', List.mem_cons_of_mem _ he', sub'⟩
  · intro q parts t t' sub names e he
    obtain ⟨names', he', sub'⟩ := parts (namesInScope.enterQuery t q) (namesInScope.enterQuery t' q)
      (grows _ sub) names e (by simpa using he)
    exact ⟨names', List.mem_cons_of_mem _ he', sub'⟩

section

variable {n j : Nat} {a a' s : Select} {q : Query} {key : Key} {outer t names : List String}

/-- A reference that was in scope in the subquery is so outside of it, unless it is a star of the subquery. -/
theorem outerKey_inScope (hk : key ∈ keysOf outer s) (around : outer ⊆ t) {e : Expr}
    (he : .leaf names e ∈ key.outer.nodes namesInScope t) {names' : List String}
    (sub : names' ⊆ names ++ relationNames s.sources) (seen : InScope names' e) :
    InScope names e ∨
      ∃ qualifier, e = .star qualifier ∧ ∃ name ∈ qualifier.getLast?, name ∈ relationNames s.sources := by
  cases e with
  | column qualifier column =>
    obtain ⟨conjunct, -, hkey⟩ := List.mem_filterMap.1 hk
    obtain ⟨name, last, named, -⟩ := onlyOuter_last (key?_eq_some hkey).2.1 he
    have outside : t ⊆ names := (sees_gathers.expr_holds key.outer t [] names _ he).1
    refine .inl fun name' last' => ?_
    obtain rfl : name = name' := Option.some.inj (last.symm.trans last')
    exact outside (around named)
  | star qualifier =>
    by_cases own : ∃ name ∈ qualifier.getLast?, name ∈ relationNames s.sources
    · exact .inr ⟨qualifier, rfl, own⟩
    · refine .inl fun name last => ?_
      rcases List.mem_append.1 (sub (seen name last)) with outside | inside
      · exact outside
      · exact absurd ⟨name, last, inside⟩ own
  | _ => exact .inl (inScope_of_not_reference rfl)

theorem ownStar_of_rewrite (parts : Yields (a.rewriteParts decorrelated ()) n a' j)
    (hq : .exists q false ∈ whereConjuncts a') (hs : q.select? = some s)
    (hk : key ∈ keysOf outer s) {qualifier : List String}
    (star : .leaf names (.star qualifier) ∈ key.outer.nodes namesInScope t) {name : String}
    (last : name ∈ qualifier.getLast?) (own : name ∈ relationNames s.sources) :
    ∃ inner ∈ existsSelects a, qualifier ∈ ownStars inner := by
  obtain ⟨q₀, s₀, i, k, hq₀, hs₀, -, i', k', hy⟩ := exists_rewriteParts parts hq hs
  refine ⟨s₀, List.mem_filterMap.2 ⟨_, hq₀, hs₀⟩, ?_⟩
  obtain ⟨conjunct, hc, hkey⟩ := List.mem_filterMap.1 hk
  obtain ⟨e₀, he₀, i₀, k₀, hx⟩ := whereConjuncts_rewrite hy hc
  have sides := (key?_eq_some hkey).1
  have inConjunct : .leaf names (.star qualifier) ∈ conjunct.nodes namesInScope t := by
    rcases sides with rfl | rfl
    · exact List.mem_append_right _ star
    · exact List.mem_append_left _ star
  obtain ⟨left, right, rfl⟩ : ∃ left right, e₀ = .binary .eq left right := by
    rcases sides with rfl | rfl
    · exact Expr.binary_of_rewrite decorrelated_keepsLeaves hx
    · exact Expr.binary_of_rewrite decorrelated_keepsLeaves hx
  -- what the walk adds are columns of joins, no stars
  have origin := (decorrelated_originating.ascends.pieces.expr_holds _ hx).2 _ _ (.refl _) _ inConjunct
  obtain ⟨names₀, star₀, -⟩ := origin.resolve_right (by rintro ⟨i, -, column, same⟩; cases same)
  refine mem_ownStars he₀ (mem_starQualifiers star₀) last ?_
  by_cases generated : isGenerated name
  · exact .inr generated
  · exact .inl (narrower_rewrite hy name own generated)

end

section

variable {strays : List (List String)}

def ScopedUpTo (strays : List (List String)) : Node (List String) → Prop :=
  Node.onLeaves fun names e => InScope names e ∨ ∃ qualifier ∈ strays, e = .star qualifier

def StraysListed (strays : List (List String)) : Node (List String) → Prop :=
  Node.onSelects fun s => ∀ inner ∈ existsSelects s, ownStars inner ⊆ strays

theorem Left.scopedUpTo {n j k : Nat} {a a' b : Select} (left : Left j a' b k)
    (parts : Yields (a.rewriteParts decorrelated ()) n a' j) {t : List String}
    (inside : relationNames b.sources ⊆ t)
    (listed : ∀ inner ∈ existsSelects a, ownStars inner ⊆ strays)
    (old : ∀ x ∈ a'.parts namesInScope t, ScopedUpTo strays x) :
    ∀ x ∈ b.parts namesInScope t, ScopedUpTo strays x := by
  intro x hx
  rcases left.mem_parts namesInScope_seesSources hx with hx | ⟨i, q, s, low, high, hq, hs, brought⟩
  · exact old x hx
  obtain ⟨⟨recursive, rfl⟩, -⟩ := plainSelect?_eq_some hs
  -- the nodes of the subquery, as they are before it becomes a join
  have inner {y : Node (List String)} (hy : y ∈ s.parts namesInScope (namesInScope.enterSelect
      (namesInScope.enterQuery t ⟨[], recursive, .select s, [], none, none⟩) s)) : ScopedUpTo strays y :=
    old y (subquery_parts hq hs y hy)
  cases brought with
  | relation | query | select => trivial
  | part hy => exact inner hy
  | innerKey c =>
    refine .inl fun name named => inside ?_
    cases named
    exact left.existsName_mem low high
  | @outerKey key _ hk hy =>
    cases x with
    | leaf names e =>
      have taken : namesInScope.enterSelect (namesInScope.enterQuery t
          ⟨[], recursive, .select s, [], none, none⟩) s ⊆ t ++ relationNames s.sources := by
        intro name hn
        simpa [namesInScope, Query.select?, or_assoc] using hn
      obtain ⟨names', he', sub⟩ :=
        (seesBeyond_gathers (relationNames s.sources)).expr_holds key.outer t _ taken names e hy
      rcases inner (mem_key_nodes _ _ hk (.inr he')) with seen | stray
      · have around : relationNames a'.sources ⊆ t := List.Subset.trans left.relationNames_subset inside
        rcases outerKey_inScope hk around hy sub seen with outside | ⟨qualifier, rfl, name, last, own⟩
        · exact .inl outside
        · obtain ⟨s₀, hs₀, star⟩ := ownStar_of_rewrite parts hq rfl hk hy last own
          exact .inr ⟨qualifier, listed s₀ hs₀ star, rfl⟩
      · exact .inr stray
    | _ => trivial

def scoping (strays : List (List String)) (_ : Unit) (_ _ : Nat)
    (L L' : List String → List (Node (List String))) : Prop :=
  ∀ t t', t ⊆ t' → (∀ x ∈ L t, ScopedUpTo strays x ∧ StraysListed strays x) → ∀ x ∈ L' t', ScopedUpTo strays x

theorem decorrelated_scoping (strays : List (List String)) :
    decorrelated.Keeps namesInScope (scoping strays) where
  nil := by
    intro env n t t' _ _ x hx
    cases hx
  append := by
    intro env n j k L L' M M' h h' t t' around before x hx
    rw [List.forall_mem_append] at before
    rcases List.mem_append.1 hx with hx | hx
    · exact h t t' around before.1 x hx
    · exact h' t t' around before.2 x hx
  leaf := by
    intro env n k e e' he hy t t' around before x hx
    obtain ⟨rfl, rfl⟩ := Outcomes.yields_pure.1 hy
    simp only [Expr.nodes_leaf _ he, List.mem_singleton] at hx
    subst hx
    exact (before _ List.mem_cons_self).1.imp_left (InScope.mono around)
  relation := by
    intro env n j k a a' b ha h hy t t' around before x hx
    obtain ⟨rfl, rfl⟩ := Outcomes.yields_pure.1 hy
    simp only [Relation.nodes_eq, List.forall_mem_cons] at before
    simp only [Relation.nodes_eq] at hx
    rcases List.mem_cons.1 hx with rfl | hx
    · trivial
    · exact h t t' around before.2 x hx
  select := by
    intro env n j k a a' b inner ha h hy t t' around before x hx
    simp only [Select.nodes_eq, List.forall_mem_cons] at before
    simp only [Select.nodes_eq] at hx
    -- a FROM clause only grows, so that what remains in its place stays in scope
    have names := relationNames_subset_rewrite (Select.yields_rewrite.2 ⟨a', j, ha, hy⟩)
    have wide : namesInScope.enterSelect t a ⊆ namesInScope.enterSelect t' b := by
      intro name hn
      exact List.mem_append.2 ((List.mem_append.1 hn).imp (@around name) (@names name))
    rcases List.mem_cons.1 hx with rfl | hx
    · trivial
    · exact (yields_leaveSelect hy).scopedUpTo ha (List.subset_append_right _ _) before.1.2
        (h _ _ wide before.2) x hx
  query := by
    intro env n j k a a' b inner ha h hy t t' around before x hx
    have wide := enterQuery_subset_rewrite (Query.yields_rewrite.2 ⟨a', j, ha, hy⟩) around
    obtain ⟨rfl, rfl⟩ := Outcomes.yields_pure.1 hy
    simp only [Query.nodes_eq, List.forall_mem_cons] at before
    simp only [Query.nodes_eq] at hx
    rcases List.mem_cons.1 hx with rfl | hx
    · trivial
    · exact h _ _ wide before.2 x hx

end

/-- The columns in the condition of the join name relations among `outer` or the join itself. -/
def LinksTo (outer : List String) (join : Join) : Prop :=
  ∃ label condition, join.relation.referenceName? = some label ∧ join.constraint = .on condition ∧
    ∀ qualifier ∈ condition.columnQualifiers, ∃ name ∈ qualifier.getLast?, name ∈ outer ∨ name = label

theorem semiJoin?_linksTo {label : String} {outer : List String} {q : Query} {join : Join}
    (h : semiJoin? label outer q = some join) : LinksTo outer join := by
  obtain ⟨s, condition, hs, -, hc, rfl⟩ := semiJoin?_eq_some.1 h
  refine ⟨label, condition, rfl, rfl, fun qualifier hq => ?_⟩
  obtain ⟨column, hx⟩ := mem_columnQualifiers.1 hq
  rcases mem_condition_nodes hc hx with ⟨key, hk, hx⟩ | ⟨i, -, same⟩
  · obtain ⟨conjunct, -, hkey⟩ := List.mem_filterMap.1 hk
    obtain ⟨name, last, named, -⟩ := onlyOuter_last (key?_eq_some hkey).2.1 hx
    exact ⟨name, last, .inl named⟩
  · cases same
    exact ⟨label, rfl, .inr rfl⟩

theorem Left.linksTo {n k : Nat} {a b : Select} (h : Left n a b k) {item : FromItem} (hi : item ∈ b.sources)
    {join : Join} (hj : join ∈ item.joins) :
    (∃ item₀ ∈ a.sources, join ∈ item₀.joins) ∨ LinksTo (relationNames a.sources) join := by
  cases h with
  | same => exact .inl ⟨item, hi, hj⟩
  | @joined _ _ item₀ _ _ _ hs _ _ _ conv =>
    cases List.mem_singleton.1 hi
    rcases List.mem_append.1 hj with old | new
    · exact .inl ⟨item₀, by simp [hs], old⟩
    · obtain ⟨q, i, -, -, -, worth⟩ := conv.joins join new
      exact .inr (semiJoin?_linksTo worth)

/-- If all references of a query are in scope, then so are those of the decorrelated query, up to stars that
stand in the subquery of an EXISTS and name one of its own relations. The joins that a SELECT gets are
linked to it by columns of its relations. -/
theorem scopes_decorrelate (q : Query) (bound : Scoped q) :
    (∀ names e, .leaf names e ∈ (decorrelate q).nodes namesInScope [] →
      InScope names e ∨ ∃ qualifier ∈ strayStars q, e = .star qualifier) ∧
      ∀ s n, ∀ item ∈ ((decorrelateSelect s).run n).1.sources, ∀ join ∈ item.joins,
        (∃ item₀ ∈ s.sources, join ∈ item₀.joins) ∨ LinksTo (relationNames s.sources) join := by
  constructor
  · intro names e he
    have walk : Yields (q.rewrite decorrelated ()) 0 (decorrelate q) ((q.rewrite decorrelated ()).run 0).2 :=
      yields_state.2 rfl
    have before : ∀ x ∈ q.nodes namesInScope [],
        ScopedUpTo (strayStars q) x ∧ StraysListed (strayStars q) x := by
      intro x hx
      cases x with
      | leaf names e => exact ⟨.inl (bound _ hx), trivial⟩
      | select names s => exact ⟨trivial, fun inner hi qualifier star => mem_strayStars hx hi star⟩
      | _ => exact ⟨trivial, trivial⟩
    exact (decorrelated_scoping (strayStars q)).ascends.pieces.query_holds q walk [] [] (List.Subset.refl _)
      before _ he
  · intro s n item hi join hj
    have left : Left n s ((decorrelateSelect s).run n).1 ((decorrelateSelect s).run n).2 :=
      decorrelateSelect_left (yields_state.2 rfl)
    exact left.linksTo hi hj

/-- `SELECT a.x FROM a WHERE EXISTS (SELECT 1 FROM b WHERE b.k = f(a.k, t.*))` for some `t`. -/
def matchedByRow (relation : String) : Query :=
  let matching : Select :=
    { Select.empty with
      projection := [⟨.literal (.int 1), none⟩]
      sources := [⟨.table ["b"] none, []⟩]
      selection := some (.binary .eq (.column ["b"] "k")
        (.call "f" [.column ["a"] "k", .star [relation]] false)) }
  .ofSelect { Select.empty with
    projection := [⟨.column ["a"] "x", none⟩]
    sources := [⟨.table ["a"] none, []⟩]
    selection := some (.exists (.ofSelect matching) false) }

theorem matchedByOuterRow_scoped : Scoped (matchedByRow "a") ∧ strayStars (matchedByRow "a") = [] ∧
    Scoped (decorrelate (matchedByRow "a")) := by
  have bound : Scoped (matchedByRow "a") := by decide +kernel
  have none : strayStars (matchedByRow "a") = [] := by decide +kernel
  refine ⟨bound, none, fun x hx => ?_⟩
  cases x with
  | leaf names e =>
    refine ((scopes_decorrelate _ bound).1 names e hx).resolve_right ?_
    simp [none]
  | _ => trivial

/-- A whole row of the subquery ends up in the condition of the join, where `b` is not in scope. -/
theorem matchedByInnerRow_escapes :
    Scoped (matchedByRow "b") ∧ ¬ Scoped (decorrelate (matchedByRow "b")) := by
  constructor
  · decide +kernel
  · decide +kernel

end QueryBridge.Passes
