import QueryBridge.Proofs.Tree.Correspondence

set_option autoImplicit false

namespace QueryBridge

/-- What stands around the body on the left of a set operation, and around that of a query in parentheses. -/
inductive LeftLevel where
  | setOp (op : SetOp) (all : Bool) (right : Body)
  | query (ctes : List Cte) (recursive : Bool) (orderBy : List OrderItem) (limit offset : Option Expr)

def LeftLevel.enclose : LeftLevel → Body → Body
  | setOp op all right, left => .setOp op all left right
  | query ctes recursive orderBy limit offset, body => .query ⟨ctes, recursive, body, orderBy, limit, offset⟩

/-- The SELECT in the levels, the first of which is the outermost. -/
def Body.enclosed (levels : List LeftLevel) (s : Select) : Body := levels.foldr LeftLevel.enclose (.select s)

mutual

def Body.levels : Body → List LeftLevel
  | .select _ => []
  | .setOp op all left right => .setOp op all right :: left.levels
  | .query q => q.levels

def Query.levels : Query → List LeftLevel
  | ⟨ctes, recursive, body, orderBy, limit, offset⟩ =>
    .query ctes recursive orderBy limit offset :: body.levels

end

section

variable (levels : List LeftLevel) (s : Select)

theorem leftmost_enclosed : (Body.enclosed levels s).leftmost = s := by
  induction levels with
  | nil => rfl
  | cons level levels ih => cases level <;> exact ih

theorem levels_enclosed : (Body.enclosed levels s).levels = levels := by
  induction levels with
  | nil => rfl
  | cons level levels ih => cases level <;> exact congrArg (_ :: ·) ih

theorem mapLeftmost_enclosed (f : Select → Select) :
    (Body.enclosed levels s).mapLeftmost f = Body.enclosed levels (f s) := by
  induction levels with
  | nil => rfl
  | cons level levels ih =>
    change _ = level.enclose (Body.enclosed levels (f s))
    rw [← ih]
    cases level <;> rfl

end

theorem enclosed_levels (b : Body) : Body.enclosed b.levels b.leftmost = b := by
  let P (b : Body) : Prop := Body.enclosed b.levels b.leftmost = b
  refine (leftEnd_induction (P := P) (Q := fun q => P (.query q)) ?_ ?_ ?_ ?_).1 b
  · exact fun _ => rfl
  · exact fun op all left right ih => congrArg (LeftLevel.setOp op all right).enclose ih
  · exact fun _ ih => ih
  · exact fun ctes recursive body orderBy limit offset ih =>
      congrArg (LeftLevel.query ctes recursive orderBy limit offset).enclose ih

theorem enclosed_eq_iff {levels : List LeftLevel} {s : Select} {b : Body} :
    Body.enclosed levels s = b ↔ levels = b.levels ∧ s = b.leftmost := by
  constructor
  · rintro rfl
    exact ⟨(levels_enclosed levels s).symm, (leftmost_enclosed levels s).symm⟩
  · rintro ⟨rfl, rfl⟩
    exact enclosed_levels b

theorem mapLeftmost_eq_enclosed (f : Select → Select) (b : Body) :
    b.mapLeftmost f = Body.enclosed b.levels (f b.leftmost) := by
  have inside := mapLeftmost_enclosed b.levels b.leftmost f
  rwa [enclosed_levels] at inside

theorem leftmost_mapLeftmost (f : Select → Select) :
    (∀ b : Body, (b.mapLeftmost f).leftmost = f b.leftmost) ∧
      ∀ q : Query, (q.mapLeftmost f).leftmost = f q.leftmost := by
  have changed (b : Body) : (b.mapLeftmost f).leftmost = f b.leftmost := by
    rw [mapLeftmost_eq_enclosed, leftmost_enclosed]
  exact ⟨changed, fun q => changed (.query q)⟩

theorem mapLeftmost_eq_self {f : Select → Select} :
    (∀ b : Body, f b.leftmost = b.leftmost → b.mapLeftmost f = b) ∧
      ∀ q : Query, f q.leftmost = q.leftmost → q.mapLeftmost f = q := by
  have kept (b : Body) (same : f b.leftmost = b.leftmost) : b.mapLeftmost f = b := by
    rw [mapLeftmost_eq_enclosed, same, enclosed_levels]
  exact ⟨kept, fun q same => Body.query.inj (kept (.query q) same)⟩

/-- There is one way to see a body as a SELECT in levels, and its SELECT is the leftmost one. The SELECT that a
change is handed is the same; the change stays inside the levels, gives the new leftmost SELECT, and is none
if it gives the old one back. -/
theorem leftmost_replaced (b : Body) :
    (∀ levels s, Body.enclosed levels s = b ↔ levels = b.levels ∧ s = b.leftmost) ∧
    (∀ f, b.mapLeftmost f = Body.enclosed b.levels (f b.leftmost)) ∧
    (∀ s, (b.mapLeftmost fun _ => s).leftmost = s) ∧
    (b.mapLeftmost fun _ => b.leftmost) = b := by
  refine ⟨fun _ _ => enclosed_eq_iff, fun f => mapLeftmost_eq_enclosed f b, fun s => ?_, ?_⟩
  · exact (leftmost_mapLeftmost fun _ => s).1 b
  · exact mapLeftmost_eq_self.1 b rfl

end QueryBridge
