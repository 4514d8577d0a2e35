import QueryBridge.Proofs.Meaning.Evaluation

set_option autoImplicit false

namespace QueryBridge.Meaning

abbrev SetOperator := SetOp × Bool

/-- How often a record is in the result that is `m` times in the left and `n` times in the right operand. -/
def tally : SetOperator → Nat → Nat → Nat
  | (.union, true), m, n => m + n
  | (.union, false), m, n => min 1 (m + n)
  | (.intersect, true), m, n => min m n
  | (.intersect, false), m, n => min 1 (min m n)
  | (.except, true), m, n => m - n
  | (.except, false), m, n => if n = 0 then min 1 m else 0

variable {α : Type} [DecidableEq α]

theorem count_dedup_eq_min (rows : Multiset (Record α)) (x : Record α) :
    rows.dedup.count x = min 1 (rows.count x) := by
  rw [Multiset.count_dedup]
  split
  · rename_i mem
    have positive := Multiset.count_pos.2 mem
    omega
  · rename_i absent
    simp [Multiset.count_eq_zero.2 absent]

theorem count_combine (op : SetOperator) (left right : Multiset (Record α)) (x : Record α) :
    (combine op.1 op.2 left right).count x = tally op (left.count x) (right.count x) := by
  obtain ⟨op, all⟩ := op
  cases op with
  | union => cases all <;> simp [combine, tally, count_dedup_eq_min]
  | intersect => cases all <;> simp [combine, tally, count_dedup_eq_min]
  | except =>
    cases all with
    | true => simp [combine, tally]
    | false =>
      simp only [combine, tally, Multiset.count_filter, count_dedup_eq_min, Multiset.count_eq_zero]

/-- The pairs of operators whose grouping does not matter. -/
def regroups : SetOperator → SetOperator → Bool
  | (.union, all), (.union, all') => all == all'
  | (.intersect, _), (.intersect, _) => true
  | (.intersect, _), (.except, false) => true
  | _, _ => false

theorem tally_regroups {op op' : SetOperator} (h : regroups op op') (a b c : Nat) :
    tally op a (tally op' b c) = tally op' (tally op a b) c := by
  obtain ⟨op, all⟩ := op
  obtain ⟨op', all'⟩ := op'
  cases op <;> cases op' <;> cases all <;> cases all' <;>
    first | exact absurd h (by decide) | (simp only [tally]; omega) | (simp only [tally]; split <;> omega)

/-- For every other pair two records at most in each operand tell the groupings apart. -/
theorem tally_differs {op op' : SetOperator} (h : regroups op op' = false) :
    ∃ a b c, tally op a (tally op' b c) ≠ tally op' (tally op a b) c := by
  have all : ∀ (op op' : SetOp) (all all' : Bool), regroups (op, all) (op', all') = false →
      ∃ a < 3, ∃ b < 3, ∃ c < 3, tally (op, all) a (tally (op', all') b c)
        ≠ tally (op', all') (tally (op, all) a b) c := by
    intro op op' all all'
    cases op <;> cases op' <;> cases all <;> cases all' <;> decide
  obtain ⟨a, -, b, -, c, -, differs⟩ := all op.1 op'.1 op.2 op'.2 h
  exact ⟨a, b, c, differs⟩

theorem regroups_iff (op op' : SetOperator) : regroups op op' ↔
    ∀ a b c : Multiset (Record α), combine op.1 op.2 a (combine op'.1 op'.2 b c)
      = combine op'.1 op'.2 (combine op.1 op.2 a b) c := by
  constructor
  · intro h a b c
    ext x
    simp only [count_combine]
    exact tally_regroups h _ _ _
  · intro same
    by_contra h
    obtain ⟨a, b, c, differs⟩ := tally_differs (Bool.eq_false_iff.2 h)
    have counts := congrArg (Multiset.count ([] : Record α))
      (same (.replicate a []) (.replicate b []) (.replicate c []))
    simp only [count_combine, Multiset.count_replicate_self] at counts
    exact differs counts

end QueryBridge.Meaning
