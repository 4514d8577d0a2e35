import QueryBridge.Passes.SemiJoin
import QueryBridge.Proofs.Tree.Outcomes

set_option autoImplicit false

namespace QueryBridge.Passes

def whereConjuncts (s : Select) : List Expr := (s.selection.map Expr.conjuncts).getD []

def keysOf (outer : List String) (s : Select) : List Key :=
  (Sides.mk outer (relationNames s.sources)).keys (whereConjuncts s)

def othersOf (outer : List String) (s : Select) : List Expr :=
  (Sides.mk outer (relationNames s.sources)).others (whereConjuncts s)

def keyTable (outer : List String) (s : Select) : Query :=
  keyQuery s (keysOf outer s) (othersOf outer s)

/-- An EXISTS that is worth a join in a SELECT over the relations `outer`. -/
def isSemiJoin (outer : List String) : Expr → Bool
  | .exists q false => (semiJoin? (existsName 0) outer q).isSome
  | _ => false

def hasSemiJoin (s : Select) : Bool :=
  s.sources.length == 1 && !hasBareStar s && (whereConjuncts s).any (isSemiJoin (relationNames s.sources))

theorem semiJoin?_eq_some {label : String} {outer : List String} {q : Query} {join : Join} :
    semiJoin? label outer q = some join ↔
      ∃ s condition, plainSelect? q = some s ∧ hasUnboundQualifier (keyTable outer s) = false ∧
        Expr.conjunction? (keyConditions label (keysOf outer s)) = some condition ∧
        join = ⟨.inner, .derived (keyTable outer s) (some ⟨label, []⟩), .on condition⟩ := by
  unfold semiJoin?
  simp only [Option.bind_eq_bind, Option.bind_eq_some_iff]
  constructor
  · rintro ⟨s, hs, condition, hc, hj⟩
    split at hj
    · cases hj
    · rename_i bound
      exact ⟨s, condition, hs, Bool.eq_false_iff.2 bound, hc, (Option.some.inj hj).symm⟩
  · rintro ⟨s, condition, hs, bound, hc, rfl⟩
    refine ⟨s, hs, condition, hc, ?_⟩
    change (if hasUnboundQualifier (keyTable outer s) = true then none else _) = _
    rw [bound]
    rfl

theorem conjunction?_isSome (es : List Expr) : (Expr.conjunction? es).isSome = !es.isEmpty := by
  cases es <;> rfl

theorem semiJoin?_isSome (label : String) (outer : List String) (q : Query) :
    (semiJoin? label outer q).isSome = (plainSelect? q).any fun s =>
      !(keysOf outer s).isEmpty && !hasUnboundQualifier (keyTable outer s) := by
  rw [Bool.eq_iff_iff, Option.isSome_iff_exists, Option.any_eq_true]
  have keyed (s : Select) : (Expr.conjunction? (keyConditions label (keysOf outer s))).isSome
      = !(keysOf outer s).isEmpty := by
    rw [conjunction?_isSome, keyConditions]
    cases keysOf outer s <;> simp [List.mapIdx_cons]
  constructor
  · rintro ⟨join, hj⟩
    obtain ⟨s, condition, hs, bound, hc, -⟩ := semiJoin?_eq_some.1 hj
    have nonempty := keyed s
    rw [hc] at nonempty
    exact ⟨s, hs, by rw [← nonempty, bound]; rfl⟩
  · rintro ⟨s, hs, h⟩
    obtain ⟨nonempty, bound⟩ := Bool.and_eq_true_iff.1 h
    obtain ⟨condition, hc⟩ := Option.isSome_iff_exists.1 ((keyed s).trans nonempty)
    exact ⟨_, semiJoin?_eq_some.2 ⟨s, condition, hs, by simpa using bound, hc, rfl⟩⟩

theorem isSemiJoin_exists (label : String) (outer : List String) (q : Query) :
    isSemiJoin outer (.exists q false) = (semiJoin? label outer q).isSome := by
  rw [isSemiJoin, semiJoin?_isSome, semiJoin?_isSome]

theorem isSemiJoin_of_some {label : String} {outer : List String} {q : Query} {join : Join}
    (hj : semiJoin? label outer q = some join) : isSemiJoin outer (.exists q false) := by
  rw [isSemiJoin_exists label, hj]
  rfl

/-- How conjuncts divide into joins, numbered from `n` up to `k`, and those that stay. -/
inductive Converted (outer : List String) : Nat → List Expr → List Join → List Expr → Nat → Prop
  | nil {n} : Converted outer n [] [] [] n
  | join {n k q join es joins kept} : semiJoin? (existsName n) outer q = some join →
      Converted outer (n + 1) es joins kept k →
      Converted outer n (.exists q false :: es) (join :: joins) kept k
  | keep {n k e es joins kept} : isSemiJoin outer e = false → Converted outer n es joins kept k →
      Converted outer n (e :: es) joins (e :: kept) k

section

variable {outer : List String} {n k : Nat}

theorem convert_join {q : Query} {join : Join} (es : List Expr)
    (h : semiJoin? (existsName n) outer q = some join) :
    (convert outer (.exists q false :: es)).run n =
      let r := (convert outer es).run (n + 1)
      ((join :: r.1.1, r.1.2), r.2) := by
  simp [convert, h]
  rfl

theorem convert_keep {e : Expr} (es : List Expr) (h : isSemiJoin outer e = false) :
    (convert outer (e :: es)).run n =
      let r := (convert outer es).run n
      ((r.1.1, e :: r.1.2), r.2) := by
  cases e with
  | «exists» q negated =>
    cases negated with
    | true => rfl
    | false =>
      rw [isSemiJoin_exists (existsName n)] at h
      have none : semiJoin? (existsName n) outer q = none := by simpa using h
      simp [convert, none]
      rfl
  | _ => rfl

theorem convert_spec (outer : List String) (es : List Expr) (n : Nat) :
    let r := (convert outer es).run n
    Converted outer n es r.1.1 r.1.2 r.2 := by
  induction es generalizing n with
  | nil => exact .nil
  | cons e es ih =>
    cases opens : isSemiJoin outer e with
    | false =>
      rw [convert_keep es opens]
      exact .keep opens (ih n)
    | true =>
      obtain ⟨q, rfl⟩ : ∃ q, e = .exists q false := by
        unfold isSemiJoin at opens
        split at opens
        · exact ⟨_, rfl⟩
        · cases opens
      rw [isSemiJoin_exists (existsName n)] at opens
      obtain ⟨join, hj⟩ := Option.isSome_iff_exists.1 opens
      rw [convert_join es hj]
      exact .join hj (ih (n + 1))

theorem Converted.length {es : List Expr} {joins : List Join} {kept : List Expr}
    (h : Converted outer n es joins kept k) : n + joins.length = k := by
  induction h with
  | nil => rfl
  | join _ _ ih => simp only [List.length_cons]; omega
  | keep _ _ ih => exact ih

theorem Converted.kept {es : List Expr} {joins : List Join} {kept : List Expr}
    (h : Converted outer n es joins kept k) : ∀ e ∈ kept, e ∈ es ∧ isSemiJoin outer e = false := by
  induction h with
  | nil => simp
  | join _ _ ih => exact fun e he => ⟨List.mem_cons_of_mem _ (ih e he).1, (ih e he).2⟩
  | keep hold _ ih =>
    intro e he
    rcases List.mem_cons.1 he with rfl | later
    · exact ⟨List.mem_cons_self, hold⟩
    · exact ⟨List.mem_cons_of_mem _ (ih e later).1, (ih e later).2⟩

theorem Converted.joins {es : List Expr} {joins : List Join} {kept : List Expr}
    (h : Converted outer n es joins kept k) : ∀ join ∈ joins, ∃ q i, .exists q false ∈ es ∧
      n ≤ i ∧ i < k ∧ semiJoin? (existsName i) outer q = some join := by
  induction h with
  | nil => simp
  | @join n k q join es joins kept hj rest ih =>
    intro x hx
    rcases List.mem_cons.1 hx with rfl | later
    · exact ⟨q, n, List.mem_cons_self, Nat.le_refl n, by have := rest.length; omega, hj⟩
    · obtain ⟨q', i, hq', low, high, hi⟩ := ih x later
      exact ⟨q', i, List.mem_cons_of_mem _ hq', by omega, high, hi⟩
  | keep _ _ ih =>
    intro x hx
    obtain ⟨q, i, hq, bounds⟩ := ih x hx
    exact ⟨q, i, List.mem_cons_of_mem _ hq, bounds⟩

theorem Converted.idle {es kept : List Expr} (h : Converted outer n es [] kept k) :
    kept = es ∧ k = n ∧ ∀ e ∈ es, isSemiJoin outer e = false := by
  generalize hj : ([] : List Join) = joins at h
  induction h with
  | nil => simp
  | join => cases hj
  | keep hold _ ih =>
    obtain ⟨rfl, rfl, rest⟩ := ih hj
    exact ⟨rfl, rfl, List.forall_mem_cons.2 ⟨hold, rest⟩⟩

end

/-- What a SELECT whose parts are rewritten becomes. -/
inductive Left : Nat → Select → Select → Nat → Prop
  | same {n s} : hasSemiJoin s = false → Left n s s n
  | joined {n k s item condition joins kept} : s.sources = [item] → s.selection = some condition →
      hasBareStar s = false → joins ≠ [] →
      Converted (relationNames s.sources) n condition.conjuncts joins kept k →
      Left n s { s with
        sources := [{ item with joins := item.joins ++ joins }]
        selection := Expr.conjunction? kept } k

theorem hasSemiJoin_eq_false {s : Select} (h : s.sources.length = 1 → hasBareStar s = false →
    ∀ e ∈ whereConjuncts s, isSemiJoin (relationNames s.sources) e = false) :
    hasSemiJoin s = false := by
  simp only [hasSemiJoin, Bool.and_eq_false_iff, beq_eq_false_iff_ne, Bool.not_eq_false',
    List.any_eq_false, Bool.not_eq_true]
  by_cases one : s.sources.length = 1
  · cases star : hasBareStar s with
    | true => exact .inl (.inr rfl)
    | false => exact .inr (h one star)
  · exact .inl (.inl one)

theorem decorrelateSelect_left {s b : Select} {n k : Nat}
    (h : Yields (decorrelateSelect s) n b k) : Left n s b k := by
  unfold decorrelateSelect at h
  split at h
  · rename_i item condition hs hw
    split at h
    · rename_i star
      obtain ⟨rfl, rfl⟩ := Outcomes.yields_pure.1 h
      exact .same (hasSemiJoin_eq_false fun _ bare => by simp [star] at bare)
    · rename_i star
      obtain ⟨⟨joins, kept⟩, j, hc, h⟩ := Outcomes.yields_bind.1 h
      have spec := convert_spec (relationNames s.sources) condition.conjuncts n
      rw [yields_state.1 hc] at spec
      simp only at h spec
      split at h
      · rename_i idle
        obtain ⟨rfl, rfl⟩ := Outcomes.yields_pure.1 h
        rw [List.isEmpty_iff.1 idle] at spec
        obtain ⟨-, rfl, none⟩ := spec.idle
        exact .same (hasSemiJoin_eq_false fun _ _ => by simpa [whereConjuncts, hw] using none)
      · rename_i busy
        obtain ⟨rfl, rfl⟩ := Outcomes.yields_pure.1 h
        exact .joined hs hw (by simpa using star) (by simpa using busy) spec
  · rename_i other
    obtain ⟨rfl, rfl⟩ := Outcomes.yields_pure.1 h
    refine .same (hasSemiJoin_eq_false fun one _ => ?_)
    obtain ⟨item, hs⟩ := List.length_eq_one_iff.1 one
    cases hw : b.selection with
    | none => simp [whereConjuncts, hw]
    | some condition => exact absurd hw (other item condition hs)

end QueryBridge.Passes
