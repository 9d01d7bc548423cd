import DocumentMapper.Proofs.Query.FoldedParts

/-!
# What folding leaves

Folding changes the outcome of no expression at any row or without one, be it a value or a
failure, and leaves nothing to fold: no operator that stands in the result at any depth has
constants alone for its operands, so that folding the result again replaces nothing. The
constants of the result are what is left of the closed expressions, those made of constants
and operators alone.

## Theorems

* `FoldsTo.evaluate_eq`: Folding keeps outcomes.
* `FoldsTo.settled`, `fold_eq_pure`: Nothing is left to fold, and then nothing is folded.
* `FoldsTo.isConstant_iff`: What becomes a constant.
* `folded_exact_and_complete`: Folding as a whole.
-/

namespace DocumentMapper

namespace Expr

variable {e r : Expr}

/-! ### Outcomes -/

theorem SettlesTo.evaluate_eq (h : e.SettlesTo r) (row : Option Document) :
    e.evaluate row = r.evaluate row := by
  rcases h with ⟨_, rfl⟩ | ⟨v, hfoldable, hv, rfl⟩
  · rfl
  · rw [evaluate_of_isFoldable hfoldable, hv, evaluate]

/-- What an expression is folded to has the outcome of the expression. -/
theorem FoldsTo.evaluate_eq (h : e.FoldsTo r) (row : Option Document) :
    e.evaluate row = r.evaluate row := by
  induction e using Expr.induct generalizing r with
  | step e ih =>
      rcases h.rebuilt with ⟨e', hparts, hsettles⟩
      have hsame : Rebuilt (SameOutcome row row) e e' :=
        hparts.imp_of_parts (ih.imp fun _ hp _ => hp)
      exact (hsame.evaluate_eq fun _ => rfl).trans (hsettles.evaluate_eq row)

/-! ### Nothing left to fold -/

theorem within_constant {c : Expr} {v : Value} (h : c.Within (.constant v)) : c = .constant v := by
  cases h with
  | self => rfl
  | part mem _ => cases mem

/-- No operator on constants stands within what an expression is folded to. -/
theorem FoldsTo.settled (h : e.FoldsTo r) {c : Expr} (hwithin : c.Within r) :
    c.isFoldable = false := by
  induction e using Expr.induct generalizing r with
  | step e ih =>
      rcases h.rebuilt with ⟨e', hparts, ⟨hleft, rfl⟩ | ⟨v, _, _, rfl⟩⟩
      · -- The result is itself not foldable, and what is in it is within the result of a part.
        cases hwithin with
        | self => exact hleft
        | part mem within =>
            rcases exists_left_of_forall₂ hparts.parts mem with ⟨p, hp, hfolds⟩
            exact parts_iff.mp ih p hp hfolds within
      · rw [within_constant hwithin]
        rfl

/-- Where no operator on constants stands nothing is folded. -/
theorem fold_eq_pure (h : ∀ c : Expr, c.Within e → c.isFoldable = false) :
    e.fold = pure e := by
  induction e using Expr.induct with
  | step e ih =>
      have hparts : e.Parts fun p => p.fold = pure p := parts_iff.mpr fun p hp =>
        parts_iff.mp ih p hp fun c hc => h c (.part hp hc)
      rw [fold_eq_traverse, traverse_eq_pure hparts, pure_bind, settle, h e .self]
      rfl

theorem not_isFoldable_iff {c : Expr} : c.isFoldable = false ↔
    (c.isOperator = true → ∃ o ∈ c.operands, o.isConstant = false) := by
  rw [← Bool.not_eq_true, isFoldable_iff, not_and]
  refine imp_congr_right fun _ => ?_
  simp only [not_forall, Bool.not_eq_true, exists_prop]

/-! ### What becomes a constant -/

theorem Rebuilt.eq_constant {R : Expr → Expr → Prop} {v : Value} (h : Rebuilt R e (.constant v)) :
    e = .constant v := by
  cases h
  rfl

/-- What has been rebuilt from folded parts is an operator on constants exactly if it comes
    from an operator on closed operands. -/
theorem Rebuilt.isFoldable_iff {e' : Expr} (h : Rebuilt FoldsTo e e')
    (ih : e.Parts fun p => ∀ {q}, p.FoldsTo q → (q.isConstant = true ↔ p.Closed)) :
    e'.isFoldable = true ↔ e.isOperator = true ∧ ∀ o ∈ e.operands, o.Closed := by
  rw [Expr.isFoldable_iff, ← h.isOperator_eq]
  refine and_congr_right fun hoperator => ?_
  have hoperands := h.operands hoperator
  rw [parts_iff, parts_of_isOperator hoperator] at ih
  constructor
  · intro hconstant o ho
    rcases exists_right_of_forall₂ hoperands ho with ⟨q, hq, hfolds⟩
    exact (ih o ho hfolds).mp (hconstant q hq)
  · intro hclosed q hq
    rcases exists_left_of_forall₂ hoperands hq with ⟨o, ho, hfolds⟩
    exact (ih o ho hfolds).mpr (hclosed o ho)

/-- The closed expressions are folded to constants, and no others. -/
theorem FoldsTo.isConstant_iff (h : e.FoldsTo r) : r.isConstant = true ↔ e.Closed := by
  induction e using Expr.induct generalizing r with
  | step e ih =>
      rcases h.rebuilt with ⟨e', hparts, ⟨hleft, rfl⟩ | ⟨v, hfoldable, _, rfl⟩⟩
      · constructor
        · intro hconstant
          cases r with
          | constant v =>
              rw [hparts.eq_constant]
              exact .constant v
          | _ => cases hconstant
        · intro hclosed
          cases hclosed with
          | constant v =>
              cases hparts
              rfl
          | operator isOperator operands =>
              -- An operator on closed operands would not have been left.
              rw [(hparts.isFoldable_iff ih).mpr ⟨isOperator, operands⟩] at hleft
              cases hleft
      · rcases (hparts.isFoldable_iff ih).mp hfoldable with ⟨hoperator, hoperands⟩
        exact iff_of_true rfl (.operator hoperator hoperands)

/-! ### Folding as a whole -/

/-- Folding is exact and complete: the result has the outcome of the expression at every row
    and without one, no operator within it has constants alone for its operands, and folding
    it again gives it back and counts nothing. -/
theorem folded_exact_and_complete {n : Nat} (h : e.folded = .ok (r, n)) :
    (∀ row, r.evaluate row = e.evaluate row) ∧
      (∀ c : Expr, c.Within r → c.isOperator = true → ∃ o ∈ c.operands, o.isConstant = false) ∧
      r.folded = .ok (r, 0) := by
  have hfolds : e.FoldsTo r := ⟨0, n, h⟩
  refine ⟨fun row => (hfolds.evaluate_eq row).symm, ?_, ?_⟩
  · intro c hwithin
    exact not_isFoldable_iff.mp (hfolds.settled hwithin)
  · rw [folded, fold_eq_pure fun c => hfolds.settled]
    rfl

end Expr

namespace GrownUps

/-- Rows of people with an age above a sum of constants. -/
def level (limit : Expr) : Select :=
  { Select.ofSource "s1" (.collection ⟨"s0", "db", "people", .document⟩) with
    filter := some (.binary .greater (.field ⟨"s0", "Age"⟩) limit) }

/-- A test of a row for an age above a limit, or else for no such people at all. -/
def test (limit : Expr) : Expr :=
  .binary .orElse (.binary .greater (.member (.parameter "row") "Age") limit)
    (.binary .equal (.subquery (level limit)) (.constant .null))

/-- A limit that is a sum of constants. -/
def sum : Expr :=
  .binary .add (.constant (.int32 17)) (.constant (.int32 1))

/-- The sum is put in its place in the test and in the level that stands in the test. -/
theorem test_folded :
    (test sum).folded = .ok (test (.constant (.int32 18)), 2) ∧
      (∀ row, (test (.constant (.int32 18))).evaluate row = (test sum).evaluate row) ∧
      (∀ c : Expr, c.Within (test (.constant (.int32 18))) → c.isOperator = true →
        ∃ o ∈ c.operands, o.isConstant = false) ∧
      (test (.constant (.int32 18))).folded = .ok (test (.constant (.int32 18)), 0) := by
  have hfolded : (test sum).folded = .ok (test (.constant (.int32 18)), 2) := by rfl
  exact ⟨hfolded, Expr.folded_exact_and_complete hfolded⟩

end GrownUps

end DocumentMapper
