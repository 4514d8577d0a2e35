import QueryBridge.Proofs.Passes.Conversion
import QueryBridge.Proofs.Tree.Conjuncts

set_option autoImplicit false

namespace QueryBridge.Passes

def isGenerated (name : String) : Bool := "__exists_".toList.isPrefixOf name.toList

theorem isGenerated_existsName (i : Nat) : isGenerated (existsName i) := by
  unfold isGenerated existsName
  rw [List.isPrefixOf_iff_prefix]
  exact ⟨(toString i).toList, by simp [toString]⟩

theorem numbered_inj {text : String} {i j : Nat} (h : text ++ toString i = text ++ toString j) : i = j := by
  have digits : (toString i).toList = (toString j).toList := by
    have := congrArg String.toList h
    simpa using this
  have value (n : Nat) : Nat.ofDigitChars 10 (toString n).toList 0 = n := by
    change Nat.ofDigitChars 10 n.repr.toList 0 = n
    rw [Nat.toList_repr, Nat.ofDigitChars_toDigits (by omega) (by omega)]
  rw [← value i, digits, value j]

theorem existsName_inj {i j : Nat} (h : existsName i = existsName j) : i = j := numbered_inj h

theorem corrName_inj {i j : Nat} (h : corrName i = corrName j) : i = j := numbered_inj h

theorem isLeaf_of_qualifier {e : Expr} {qualifier : List String} (h : qualifier? e = some qualifier) :
    e.isLeaf := by
  cases e with
  | column | star => rfl
  | _ => cases h

theorem mem_columnQualifiers {e : Expr} {qualifier : List String} :
    qualifier ∈ e.columnQualifiers ↔
      ∃ name, .leaf () (.column qualifier name) ∈ e.nodes .unscoped () := by
  simp only [Expr.columnQualifiers, Expr.leaves, Expr.occurrences, List.mem_filterMap, List.mem_map]
  constructor
  · rintro ⟨x, ⟨⟨_, _⟩, ⟨node, hn, ho⟩, rfl⟩, hx⟩
    cases node with
    | leaf env leaf =>
      cases leaf with
      | column => cases ho; cases hx; exact ⟨_, hn⟩
      | _ => cases ho; cases hx
    | _ => cases ho
  · rintro ⟨name, h⟩
    exact ⟨.column qualifier name, ⟨((), _), ⟨_, h, rfl⟩, rfl⟩, rfl⟩

theorem whereConjuncts_nodes {τ : Type} (v : Scoping τ) (t : τ) (s : Select) :
    (whereConjuncts s).flatMap (·.nodes v t) = nodesOfOption v t s.selection := by
  rw [whereConjuncts]
  cases s.selection with
  | none => rfl
  | some e => exact e.nodes_conjuncts v t

theorem whereConjuncts_rewriteParts {m : Type → Type} [Monad m] {σ : Type} [Outcomes m σ] {ρ : Type}
    {r : Rewrite m ρ} (leaves : r.KeepsLeaves) {inner : ρ} {n k : σ} {a b : Select}
    (h : Yields (a.rewriteParts r inner) n b k) :
    List.Forall₂ (fun x y => ∃ i j, Yields (x.rewrite r inner) i y j)
      (whereConjuncts a) (whereConjuncts b) := by
  simp only [Select.rewriteParts, Outcomes.yields_bind, Outcomes.yields_pure] at h
  obtain ⟨_, _, -, _, _, -, w, _, hw, _, _, -, _, _, -, rfl, -⟩ := h
  unfold whereConjuncts
  cases present : a.selection with
  | none =>
    rw [present, rewriteOption] at hw
    obtain ⟨rfl, -⟩ := Outcomes.yields_pure.1 hw
    exact .nil
  | some e =>
    rw [present, rewriteOption] at hw
    obtain ⟨e', _, he, hp⟩ := Outcomes.yields_bind.1 hw
    obtain ⟨rfl, -⟩ := Outcomes.yields_pure.1 hp
    exact e.conjuncts_rewrite leaves he

theorem mem_parts_of_whereConjunct {τ : Type} {v : Scoping τ} {t : τ} {s : Select} {e : Expr} {x : Node τ}
    (he : e ∈ whereConjuncts s) (hx : x ∈ e.nodes v t) : x ∈ s.parts v t := by
  have inWhere : x ∈ nodesOfOption v t s.selection := by
    rw [← whereConjuncts_nodes]
    exact List.mem_flatMap.2 ⟨e, he, hx⟩
  simp [Select.parts, inWhere]

theorem nodes_plainQuery {τ : Type} (v : Scoping τ) (t : τ) (recursive : Bool) (s : Select) :
    let q : Query := ⟨[], recursive, .select s, [], none, none⟩
    let inner := v.enterSelect (v.enterQuery t q) s
    q.nodes v t = .query (v.enterQuery t q) q :: .select inner s :: s.parts v inner := by
  simp [Query.nodes_eq, Query.parts, nodesOfCtes, Body.nodes, nodesOfOrder, nodesOfOption,
    Select.nodes_eq]

theorem plainSelect?_eq_some {q : Query} {s : Select} (h : plainSelect? q = some s) :
    (∃ recursive, q = ⟨[], recursive, .select s, [], none, none⟩) ∧
      s.sources ≠ [] ∧ s.groupBy = [] ∧ s.having = none := by
  obtain ⟨ctes, recursive, body, orderBy, limit, offset⟩ := q
  unfold plainSelect? at h
  split at h
  · rename_i plain
    simp only [Bool.and_eq_true, List.isEmpty_iff, Option.isNone_iff_eq_none] at plain
    obtain ⟨⟨⟨rfl, rfl⟩, rfl⟩, rfl⟩ := plain
    obtain ⟨hs, ungrouped⟩ := Option.filter_eq_some_iff.1 h
    simp only [Bool.and_eq_true, List.isEmpty_iff, Option.isNone_iff_eq_none] at ungrouped
    cases body with
    | select s' =>
      cases hs
      exact ⟨⟨recursive, rfl⟩, by simpa using ungrouped.1.1, ungrouped.1.2, ungrouped.2⟩
    | _ => cases hs
  · cases h

theorem subquery_nodes {τ : Type} {v : Scoping τ} {t : τ} {a s : Select} {q : Query}
    (hq : .exists q false ∈ whereConjuncts a) (hs : plainSelect? q = some s) :
    ∀ x ∈ s.nodes v (v.enterQuery t q), x ∈ a.parts v t := by
  intro x hx
  refine mem_parts_of_whereConjunct hq ?_
  obtain ⟨⟨recursive, rfl⟩, -⟩ := plainSelect?_eq_some hs
  rw [Expr.nodes, nodes_plainQuery, ← Select.nodes_eq]
  exact List.mem_cons_of_mem _ hx

theorem subquery_parts {τ : Type} {v : Scoping τ} {t : τ} {a s : Select} {q : Query}
    (hq : .exists q false ∈ whereConjuncts a) (hs : plainSelect? q = some s) :
    ∀ x ∈ s.parts v (v.enterSelect (v.enterQuery t q) s), x ∈ a.parts v t := by
  intro x hx
  refine subquery_nodes hq hs x ?_
  rw [Select.nodes_eq]
  exact List.mem_cons_of_mem _ hx

theorem key?_eq_some {sides : Sides} {e : Expr} {key : Key} (h : sides.key? e = some key) :
    (e = .binary .eq key.inner key.outer ∨ e = .binary .eq key.outer key.inner) ∧
      sides.onlyOuter key.outer ∧ sides.noOuter key.inner := by
  unfold Sides.key? at h
  split at h
  · rename_i left right
    split at h
    · rename_i first
      cases h
      exact ⟨.inr rfl, Bool.and_eq_true_iff.1 first⟩
    · split at h
      · rename_i second
        cases h
        exact ⟨.inl rfl, Bool.and_eq_true_iff.1 second⟩
      · cases h
  · cases h

section

variable {sides : Sides} {e : Expr}

theorem Sides.keys_cons_some {key : Key} (h : sides.key? e = some key) (es : List Expr) :
    sides.keys (e :: es) = key :: sides.keys es := by
  simp [Sides.keys, h]

theorem Sides.keys_cons_none (h : sides.key? e = none) (es : List Expr) :
    sides.keys (e :: es) = sides.keys es := by
  simp [Sides.keys, h]

theorem Sides.others_cons_some {key : Key} (h : sides.key? e = some key) (es : List Expr) :
    sides.others (e :: es) = sides.others es := by
  simp [Sides.others, h]

theorem Sides.others_cons_none (h : sides.key? e = none) (es : List Expr) :
    sides.others (e :: es) = e :: sides.others es := by
  simp [Sides.others, h]

end

theorem columnQualifiers_eq (left right : Expr) :
    (Expr.binary .eq left right).columnQualifiers = left.columnQualifiers ++ right.columnQualifiers := by
  simp [Expr.columnQualifiers, Expr.leaves, Expr.occurrences, Expr.nodes]

theorem key?_congr {sides sides' : Sides} {e : Expr}
    (h : ∀ qualifier ∈ e.columnQualifiers, sides.isOuter qualifier = sides'.isOuter qualifier) :
    sides.key? e = sides'.key? e := by
  unfold Sides.key?
  split
  · rename_i left right
    rw [columnQualifiers_eq, List.forall_mem_append] at h
    have only (x : Expr) (hx : ∀ q ∈ x.columnQualifiers, sides.isOuter q = sides'.isOuter q) :
        sides.onlyOuter x = sides'.onlyOuter x := by
      rw [Sides.onlyOuter, Sides.onlyOuter, Bool.eq_iff_iff, Bool.and_eq_true, Bool.and_eq_true,
        List.all_eq_true, List.all_eq_true]
      exact and_congr_right fun _ => forall₂_congr fun q hq => by rw [hx q hq]
    have none (x : Expr) (hx : ∀ q ∈ x.columnQualifiers, sides.isOuter q = sides'.isOuter q) :
        sides.noOuter x = sides'.noOuter x := by
      rw [Sides.noOuter, Sides.noOuter, Bool.eq_iff_iff, Bool.not_eq_true', Bool.not_eq_true',
        List.any_eq_false, List.any_eq_false]
      exact forall₂_congr fun q hq => by rw [hx q hq]
    rw [only left h.1, only right h.2, none left h.1, none right h.2]
  · rfl

section

variable {outer more : List String} {s : Select}

def Unmentioned (more : List String) (s : Select) : Prop :=
  ∀ e ∈ whereConjuncts s, ∀ qualifier ∈ e.columnQualifiers, ∀ part ∈ qualifier, part ∉ more

theorem key?_unmentioned (h : Unmentioned more s) {e : Expr} (he : e ∈ whereConjuncts s) :
    (Sides.mk (outer ++ more) (relationNames s.sources)).key? e =
      (Sides.mk outer (relationNames s.sources)).key? e := by
  refine key?_congr fun qualifier hq => ?_
  unfold Sides.isOuter
  cases last : qualifier.getLast? with
  | none => rfl
  | some name =>
    have fresh := h e he qualifier hq name (List.mem_of_getLast? last)
    simp [fresh]

theorem keysOf_unmentioned (h : Unmentioned more s) : keysOf (outer ++ more) s = keysOf outer s :=
  List.filterMap_congr fun _ he => key?_unmentioned h he

theorem othersOf_unmentioned (h : Unmentioned more s) :
    othersOf (outer ++ more) s = othersOf outer s := by
  unfold othersOf Sides.others
  refine List.filter_congr fun e he => ?_
  rw [key?_unmentioned h he]

theorem isSemiJoin_unmentioned {e : Expr}
    (h : ∀ qualifier ∈ e.columnQualifiers, ∀ part ∈ qualifier, part ∉ more) :
    isSemiJoin (outer ++ more) e = isSemiJoin outer e := by
  unfold isSemiJoin
  split
  · rename_i q
    rw [semiJoin?_isSome, semiJoin?_isSome]
    cases hs : plainSelect? q with
    | none => rfl
    | some s =>
      obtain ⟨⟨recursive, rfl⟩, -⟩ := plainSelect?_eq_some hs
      have unmentioned : Unmentioned more s := by
        intro c hc qualifier hq
        refine h qualifier ?_
        obtain ⟨name, hn⟩ := mem_columnQualifiers.1 hq
        refine mem_columnQualifiers.2 ⟨name, ?_⟩
        rw [Expr.nodes, nodes_plainQuery]
        exact List.mem_cons_of_mem _ (List.mem_cons_of_mem _ (mem_parts_of_whereConjunct hc hn))
      simp only [Option.any_some, keyTable, keysOf_unmentioned unmentioned,
        othersOf_unmentioned unmentioned]
  · rfl

end

end QueryBridge.Passes
