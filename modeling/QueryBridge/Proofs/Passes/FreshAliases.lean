import Mathlib.Data.List.Nodup
import QueryBridge.Proofs.Passes.JoinedSelect
import QueryBridge.Proofs.Passes.ConvertedConjuncts
import QueryBridge.Proofs.Passes.Origins
import QueryBridge.Proofs.Tree.Positions
import QueryBridge.Proofs.Tree.NodeLists

set_option autoImplicit false

namespace QueryBridge.Passes

def Node.isNamed (name : String) : Node Unit → Nat
  | .relation _ r => if r.referenceName? = some name then 1 else 0
  | _ => 0

theorem total_isNamed (name : String) (L : List (Node Unit)) :
    total (Node.isNamed name) L = (namesAmong L).count name := by
  induction L with
  | nil => rfl
  | cons x L ih =>
    rw [total_cons, ih]
    cases x with
    | relation t r =>
      cases hr : r.referenceName? with
      | none => simp [namesAmong, Node.isNamed, hr]
      | some other => by_cases same : other = name <;> simp [namesAmong, Node.isNamed, hr, same, Nat.add_comm]
    | _ => simp [namesAmong, Node.isNamed]

def given (name : String) (k : Nat) : Nat := ((List.range k).map existsName).count name

theorem given_succ (name : String) (k : Nat) :
    given name (k + 1) = given name k + if existsName k = name then 1 else 0 := by
  by_cases same : existsName k = name <;> simp [given, List.range_succ, List.count_append, same]

theorem given_le_one (name : String) (k : Nat) : given name k ≤ 1 :=
  List.nodup_iff_count_le_one.1 (List.nodup_range.map fun _ _ => existsName_inj) name

theorem joins_named (name : String) : JoinsCost (Node.isNamed name) (given name) := by
  intro outer i q join h
  obtain ⟨s, hs, le⟩ := total_join (w := Node.isNamed name) (fun _ => rfl) h
  rw [total_plainQuery hs, given_succ]
  simp only [Node.isNamed, Relation.referenceName?, Relation.label?, Option.some.injEq] at le ⊢
  omega

theorem decorrelated_named (name : String) : decorrelated.Keeps .unscoped fun _ n k L L' =>
    total (Node.isNamed name) (L' ()) + given name n ≤ total (Node.isNamed name) (L ()) + given name k where
  nil := Nat.le_refl _
  append h h' := by
    simp only [total_append]
    omega
  leaf he hy := by
    obtain ⟨rfl, rfl⟩ := Outcomes.yields_pure.1 hy
    simp only [Expr.nodes_leaf _ he]
    exact Nat.le_refl _
  relation {env n j k a a' b} ha h hy := by
    have whole : Yields (a.rewrite decorrelated ()) n b k := Relation.yields_rewrite.2 ⟨a', j, ha, hy⟩
    obtain ⟨rfl, rfl⟩ := Outcomes.yields_pure.1 hy
    simp only [Relation.nodes_eq, total_cons, Node.isNamed, referenceName?_rewrite whole] at h ⊢
    omega
  select ha h hy := by
    have left := (decorrelateSelect_left hy).total_le (joins_named name)
    simp only [Select.nodes_eq, total_cons, Node.isNamed, unscoped_enterSelect] at left h ⊢
    omega
  query ha h hy := by
    obtain ⟨rfl, rfl⟩ := Outcomes.yields_pure.1 hy
    simpa only [Query.nodes_eq, total_cons, Node.isNamed, Nat.zero_add] using h

theorem count_names_decorrelate (q : Query) (name : String) :
    (namesAmong ((decorrelate q).nodes .unscoped ())).count name ≤
      (namesAmong (q.nodes .unscoped ())).count name + given name ((q.rewrite decorrelated ()).run 0).2 := by
  have walk : Yields (q.rewrite decorrelated ()) 0 (decorrelate q) ((q.rewrite decorrelated ()).run 0).2 :=
    yields_state.2 rfl
  have le := (decorrelated_named name).ascends.pieces.query_holds q walk
  simp only [nodesKept, total_isNamed] at le
  omega

theorem name_decorrelate {q : Query} {name : String}
    (h : name ∈ namesAmong ((decorrelate q).nodes .unscoped ())) :
    name ∈ namesAmong (q.nodes .unscoped ()) ∨ ∃ k, name = existsName k := by
  by_cases old : name ∈ namesAmong (q.nodes .unscoped ())
  · exact .inl old
  · have le := count_names_decorrelate q name
    have some := List.count_pos_iff.2 h
    rw [List.count_eq_zero.2 old] at le
    have new : 0 < given name ((q.rewrite decorrelated ()).run 0).2 := by omega
    obtain ⟨k, -, named⟩ := List.mem_map.1 (List.count_pos_iff.1 new)
    exact .inr ⟨k, named.symm⟩

/-- The `i`-th condition of the join number `k` is about the `i`-th column of its table. -/
inductive HasKey (k i : Nat) : Join → Prop
  | intro {table : Query} {s : Select} {condition outer inner : Expr} :
      table.select? = some s → s.projection[i]? = some ⟨inner, some s!"__corr_{i}"⟩ →
      condition.conjuncts[i]? = some (.binary .eq outer (.column [s!"__exists_{k}"] s!"__corr_{i}")) →
      HasKey k i ⟨.inner, .derived table (some ⟨s!"__exists_{k}", []⟩), .on condition⟩

theorem Replacement.join_hasKey {outer : List String} (r : Replacement outer) (k : Nat) {i : Nat}
    (hi : i < r.keys.length) : HasKey k i (r.join (existsName k)) := by
  have item : (r.keys.mapIdx fun j key => SelectItem.mk key.inner (some s!"__corr_{j}"))[i]? =
      some ⟨r.keys[i].inner, some s!"__corr_{i}"⟩ := by simp [hi]
  have equation : (r.equations (existsName k))[i]? =
      some (.binary .eq r.keys[i].outer (.column [existsName k] s!"__corr_{i}")) := by
    simp [Replacement.equations, hi]
  have conjuncts := r.conjuncts_condition _ (Option.some_get (r.equations_conjoin (existsName k))).symm
  rw [← conjuncts] at equation
  exact .intro rfl item equation

def clausesInScope : Scoping (List (List FromItem)) := .collecting fun sources => [sources]

def Ungenerated {τ : Type} : Node τ → Prop
  | .leaf _ e => ∀ qualifier, qualifier? e = some qualifier → ∀ part ∈ qualifier, ¬ isGenerated part
  | .relation _ r => ∀ name, r.referenceName? = some name → ¬ isGenerated name
  | _ => True

/-- A reference with a generated name is a column of a key, of a join in a FROM clause around it. -/
def Answered : Node (List (List FromItem)) → Prop
  | .leaf clauses e => ∀ qualifier, qualifier? e = some qualifier → (∃ part ∈ qualifier, isGenerated part) →
      ∃ k i, e = .qualified (existsName k) (corrName i) ∧
        ∃ sources ∈ clauses, ∃ item ∈ sources, ∃ join ∈ item.joins, HasKey k i join
  | _ => True

theorem answered_left {j k : Nat} {a b : Select} (left : Left j a b k) {clauses : List (List FromItem)}
    (here : b.sources ∈ clauses) (plain : ∀ name ∈ relationNames a.sources, ¬ isGenerated name)
    (old : ∀ x ∈ a.parts clausesInScope clauses, Answered x) :
    ∀ x ∈ b.parts clausesInScope clauses, Answered x := by
  intro x hx
  rcases left.part_or_join hx with hx | ⟨item, hitem, join, hjoin, c, q, -, -, hq, worth, hx⟩
  · exact old x hx
  obtain ⟨s, hs, brought⟩ := mem_join_nodes collecting_seesSources worth hx
  have moved : ∀ y ∈ s.parts clausesInScope
      (clausesInScope.enterSelect (clausesInScope.enterQuery clauses q) s), Answered y :=
    fun y hy => old y (subquery_parts hq hs y hy)
  cases brought with
  | relation => trivial
  | query => trivial
  | select => trivial
  | part hy => exact moved x hy
  | @outerKey key _ hk hy =>
    cases x with
    | leaf env e =>
      intro qualifier refers generated
      obtain ⟨env', again⟩ := leaf_surrounded hy
        (clausesInScope.enterSelect (clausesInScope.enterQuery clauses q) s)
      -- A generated name here would be that of a relation of the surrounding SELECT, which has none.
      obtain ⟨c', i, rfl, -⟩ := moved _ (mem_key_nodes _ _ hk (.inr again)) qualifier refers generated
      obtain ⟨conjunct, -, found⟩ := List.mem_filterMap.1 hk
      obtain ⟨last, hl, outside, -⟩ := (Sides.key?_eq_some_iff.1 found).2.outer _
        (mem_columnQualifiers.2 ⟨_, leaf_unscoped hy⟩)
      obtain rfl : existsName c' = last := Option.some.inj hl
      exact absurd (isGenerated_existsName c') (plain _ outside)
    | _ => trivial
  | innerKey i hi =>
    obtain ⟨r, rfl, rfl⟩ := semiJoin?_eq_some_iff.1 worth
    obtain rfl : r.select = s := Option.some.inj ((plainSelect?_query r).symm.trans hs)
    rw [← r.keys_eq.1] at hi
    exact fun _ _ _ => ⟨c, i, rfl, _, here, item, hitem, _, hjoin, r.join_hasKey c hi⟩

theorem decorrelated_answers : decorrelated.Keeps clausesInScope fun _ _ _ L L' =>
    ∀ t t', (∀ x ∈ L t', Ungenerated x) → ∀ x ∈ L' t, Answered x where
  nil t t' _ x hx := by cases hx
  append h h' t t' plain x hx := by
    rw [List.forall_mem_append] at plain
    rcases List.mem_append.1 hx with hx | hx
    · exact h t t' plain.1 x hx
    · exact h' t t' plain.2 x hx
  leaf {env n k e e'} he hy t t' plain x hx := by
    obtain ⟨rfl, rfl⟩ := Outcomes.yields_pure.1 hy
    simp only [Expr.nodes_leaf _ he, List.mem_singleton] at hx
    subst hx
    intro qualifier refers ⟨part, mem, generated⟩
    exact absurd generated (plain _ List.mem_cons_self qualifier refers part mem)
  relation {env n j k a a' b} ha h hy t t' plain x hx := by
    obtain ⟨rfl, rfl⟩ := Outcomes.yields_pure.1 hy
    simp only [Relation.nodes_eq, List.forall_mem_cons] at plain
    simp only [Relation.nodes_eq, List.mem_cons] at hx
    rcases hx with rfl | hx
    · trivial
    · exact h t t' plain.2 x hx
  select {env n j k a a' b} ha h hy t t' plain x hx := by
    simp only [Select.nodes_eq, List.forall_mem_cons] at plain
    simp only [Select.nodes_eq, List.mem_cons] at hx
    rcases hx with rfl | hx
    · trivial
    · refine answered_left (yields_leaveSelect hy) (List.mem_append_right _ (List.mem_singleton_self _)) ?_
        (h _ _ plain.2) x hx
      intro name hn
      rw [relationNames_rewriteParts ha] at hn
      obtain ⟨env, r, hr, named⟩ := mem_namesAmong.1
        (relationNames_among (v := clausesInScope) hn (clausesInScope.enterSelect t' a))
      have ungenerated : Ungenerated (.relation env r) := plain.2 _ (by simp [Select.parts, hr])
      exact ungenerated name named
  query {env n j k a a' b} ha h hy t t' plain x hx := by
    obtain ⟨rfl, rfl⟩ := Outcomes.yields_pure.1 hy
    simp only [Query.nodes_eq, List.forall_mem_cons] at plain
    simp only [Query.nodes_eq, List.mem_cons] at hx
    rcases hx with rfl | hx
    · trivial
    · exact h _ _ plain.2 x hx

/-- The names that stand in a node: of tables, aliases and queries of WITH, and those that qualify. -/
def Node.names {τ : Type} : Node τ → List String
  | .leaf _ e => (qualifier? e).getD []
  | .relation _ (.table path label) => path ++ label.toList.map (·.name)
  | .relation _ r => r.label?.toList.map (·.name)
  | .select _ s => s.projection.filterMap (·.label)
  | .query _ q => q.ctes.map (·.name)

def Query.names (q : Query) : List String := (q.nodes .unscoped ()).flatMap Node.names

theorem referenceName_mem_names {τ : Type} {env : τ} {r : Relation} {name : String}
    (h : r.referenceName? = some name) : name ∈ Node.names (.relation env r) := by
  cases r with
  | table path label =>
    rw [Node.names, List.mem_append]
    cases label with
    | none => exact .inl (List.mem_of_getLast? h)
    | some a => exact .inr (List.mem_singleton.2 (Option.some.inj h).symm)
  | derived q label | unnest es label =>
    cases label with
    | none => cases h
    | some a => exact List.mem_singleton.2 (Option.some.inj h).symm

theorem ungenerated_of_names {τ : Type} {x : Node τ} (h : ∀ name ∈ Node.names x, ¬ isGenerated name) :
    Ungenerated x := by
  cases x with
  | leaf env e =>
    intro qualifier refers part mem
    exact h part (by rwa [Node.names, refers])
  | relation env r => exact fun name named => h name (referenceName_mem_names named)
  | _ => trivial

theorem names_bare {τ : Type} (x : Node τ) : Node.names x.bare = Node.names x := by
  cases x with
  | relation env r => cases r <;> rfl
  | _ => rfl

theorem name_mem_names {q : Query} {name : String} (h : name ∈ namesAmong (q.nodes .unscoped ())) :
    name ∈ Query.names q := by
  obtain ⟨env, r, hr, named⟩ := mem_namesAmong.1 h
  exact List.mem_flatMap.2 ⟨_, hr, referenceName_mem_names named⟩

theorem HasKey.referenceName {k i : Nat} {join : Join} (h : HasKey k i join) :
    join.relation.referenceName? = some (existsName k) := by
  cases h
  rfl

theorem name_of_enclosing {q : Query} {path : List Nat} {y : Subtree}
    (h : (Subtree.query q).at? path = some y) {s : Select} (hs : s ∈ (Subtree.query q).enclosing path)
    {item : FromItem} (hi : item ∈ s.sources) {join : Join} (hj : join ∈ item.joins) {name : String}
    (named : join.relation.referenceName? = some name) :
    name ∈ namesAmong (q.nodes .unscoped ()) := by
  have own : name ∈ relationNames s.sources := by
    refine List.mem_filterMap.2 ⟨_, List.mem_flatMap.2 ⟨item, hi, ?_⟩, named⟩
    exact List.mem_cons_of_mem _ (List.mem_map.2 ⟨join, hj, rfl⟩)
  obtain ⟨env, r, hr, named⟩ := mem_namesAmong.1 (relationNames_among (v := .unscoped) own ())
  have part : .relation env r ∈ s.parts .unscoped () := by simp [Select.parts, hr]
  have node : .select () s ∈ q.nodes .unscoped () := Subtree.enclosing_mem_nodes h hs
  exact mem_namesAmong.2 ⟨env, r, (Query.parts_sublist node).subset part, named⟩

/-- In a query without generated names the relations that get one all get another, none of them a name of
the query. A reference by such a name is the column of a key of the one relation with that name, whose
join is in a FROM clause around it. -/
theorem generated_names_bound (q : Query) (plain : ∀ name ∈ Query.names q, ¬ isGenerated name) :
    let result := Subtree.query (decorrelate q)
    let names := namesAmong ((decorrelate q).nodes .unscoped ())
    (∀ name ∈ names, name ∈ namesAmong (q.nodes .unscoped ()) ∨ ∃ k : Nat, name = s!"__exists_{k}") ∧
    (names.filter isGenerated).Nodup ∧ (∀ name ∈ names, isGenerated name → name ∉ Query.names q) ∧
    ∀ path e qualifier, result.at? path = some (.expr e) → qualifier? e = some qualifier →
      (∃ part ∈ qualifier, isGenerated part) →
      ∃ k i, e = .column [s!"__exists_{k}"] s!"__corr_{i}" ∧ names.count s!"__exists_{k}" = 1 ∧
        ∃ s ∈ result.enclosing path, ∃ item ∈ s.sources, ∃ join ∈ item.joins, HasKey k i join := by
  intro result names
  have once : ∀ name, isGenerated name → names.count name ≤ 1 := by
    intro name generated
    have new : (namesAmong (q.nodes .unscoped ())).count name = 0 :=
      List.count_eq_zero.2 fun old => plain name (name_mem_names old) generated
    have le : names.count name ≤ _ := count_names_decorrelate q name
    have one := given_le_one name ((q.rewrite decorrelated ()).run 0).2
    omega
  refine ⟨fun name => name_decorrelate, List.nodup_iff_count_le_one.2 fun name => ?_,
    fun name _ generated old => plain name old generated, ?_⟩
  · by_cases generated : isGenerated name
    · rw [List.count_filter generated]
      exact once name generated
    · rw [List.count_eq_zero.2 fun mem => generated (List.mem_filter.1 mem).2]
      exact Nat.zero_le 1
  · intro path e qualifier at_path refers generated
    have walk : Yields (q.rewrite decorrelated ()) 0 (decorrelate q) ((q.rewrite decorrelated ()).run 0).2 :=
      yields_state.2 rfl
    -- The names are looked at without surroundings, the references with the FROM clauses around.
    have before : ∀ x ∈ q.nodes clausesInScope [], Ungenerated x := by
      intro x hx
      refine ungenerated_of_names fun name hn => plain name (List.mem_flatMap.2 ⟨x.bare, ?_, ?_⟩)
      · rw [(viewing_ascends (v := clausesInScope)).query_holds q []]
        exact List.mem_map.2 ⟨x, hx, rfl⟩
      · rwa [names_bare]
    have node := Subtree.leaf_at (fun sources => [sources]) [] at_path (isLeaf_of_qualifier refers)
    have answered := decorrelated_answers.ascends.pieces.query_holds q walk [] [] before _ node
    obtain ⟨k, i, rfl, sources, hs, item, hi, join, hj, key⟩ := answered qualifier refers generated
    obtain ⟨s, around, rfl⟩ : ∃ s ∈ result.enclosing path, s.sources = sources := by
      simpa [eq_comm] using hs
    have present := name_of_enclosing at_path around hi hj key.referenceName
    have count : names.count (existsName k) = 1 :=
      Nat.le_antisymm (once _ (isGenerated_existsName k)) (List.count_pos_iff.2 present)
    exact ⟨k, i, rfl, count, s, around, item, hi, join, hj, key⟩

/-- `SELECT a.x FROM a WHERE EXISTS (SELECT 1 FROM b WHERE b.k = a.k
AND EXISTS (SELECT 1 FROM c WHERE c.j = b.j))` -/
def linkedTwice : Query :=
  let innermost : Query := .ofSelect { Select.empty with
    projection := [⟨.int 1, none⟩], sources := [⟨.named "c", []⟩]
    selection := some (.equals (.qualified "c" "j") (.qualified "b" "j")) }
  let subquery : Query := .ofSelect { Select.empty with
    projection := [⟨.int 1, none⟩], sources := [⟨.named "b", []⟩]
    selection := some ((Expr.equals (.qualified "b" "k") (.qualified "a" "k")).and
      (.exists innermost false)) }
  .ofSelect { Select.empty with
    projection := [⟨.qualified "a" "x", none⟩], sources := [⟨.named "a", []⟩]
    selection := some (.exists subquery false) }

/-- The condition of the inner join, in the table of the outer one. -/
theorem linkedTwice_bound :
    let result := Subtree.query (decorrelate linkedTwice)
    let path := [0, 0, 2, 0, 0, 0, 3, 1]
    (∀ name ∈ Query.names linkedTwice, ¬ isGenerated name) ∧
    result.at? path = some (.expr (.column ["__exists_0"] "__corr_0")) ∧
    ∃ k i : Nat, Expr.column ["__exists_0"] "__corr_0" = .column [s!"__exists_{k}"] s!"__corr_{i}" ∧
      (namesAmong ((decorrelate linkedTwice).nodes .unscoped ())).count s!"__exists_{k}" = 1 ∧
      ∃ s ∈ result.enclosing path, ∃ item ∈ s.sources, ∃ join ∈ item.joins, HasKey k i join := by
  intro result path
  have plain : ∀ name ∈ Query.names linkedTwice, ¬ isGenerated name := by decide +kernel
  have at_path : result.at? path = some (.expr (.column ["__exists_0"] "__corr_0")) := by rfl
  exact ⟨plain, at_path, (generated_names_bound linkedTwice plain).2.2.2 path _ _ at_path rfl
    ⟨_, List.mem_cons_self, isGenerated_existsName 0⟩⟩

end QueryBridge.Passes
