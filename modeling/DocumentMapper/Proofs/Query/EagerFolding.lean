import DocumentMapper.Proofs.Query.Comparison
import DocumentMapper.Proofs.Query.ConstantFolding
import DocumentMapper.Proofs.Query.Shape

/-!
# When folding fails

Evaluation does not look at the right operand of a conjunction, a disjunction or a
coalescing that its left operand decides, but folding goes through all operands. It
succeeds exactly if each closed expression within the expression has a value. An expression
that has a value has evaluated all that stands within it but for such operands, and so
folding of it succeeds exactly if each closed expression that stands within the right
operand of such an operator has a value; and otherwise it fails with the failure of one of
these.

## Main definitions

* `BinaryOp.skipsRight`: Operators whose left operand may decide.
* `Expr.Guarded`: What stands within the right operand of such an operator.

## Theorems

* `folds_iff`: Folding succeeds where closed expressions have values.
* `fold_eq_error_closed`: Folding fails with the failure of a closed expression.
* `evaluated_or_guarded`: What has been evaluated with an expression.
* `folded_of_value`: Folding of an expression with a value.
-/

namespace DocumentMapper

namespace Expr

variable {c e r : Expr} {row : Option Document} {v : Value}

/-! ### Folding and closed expressions -/

/-- With an expression everything within it is folded. -/
theorem FoldsTo.within (h : e.FoldsTo r) (hwithin : c.Within e) : ∃ q, c.FoldsTo q := by
  induction hwithin generalizing r with
  | self => exact ⟨r, h⟩
  | part mem _ ih =>
      rcases h.rebuilt with ⟨e', hparts, _⟩
      rcases exists_right_of_forall₂ hparts.parts mem with ⟨q, _, hfolds⟩
      exact ih hfolds

/-- A closed expression that is folded has the value that is put in its place. -/
theorem FoldsTo.value_of_closed (h : c.FoldsTo r) (hclosed : c.Closed) :
    ∃ v, c.evaluate none = .ok v := by
  have hconstant := h.isConstant_iff.mpr hclosed
  cases r with
  | constant v =>
      refine ⟨v, ?_⟩
      rw [h.evaluate_eq none, evaluate]
  | _ => cases hconstant

/-- What has been rebuilt from folded parts has the outcome of the expression, and is an
    operator on constants only if the expression is closed. -/
theorem Rebuilt.closed_of_isFoldable {e' : Expr} (h : Rebuilt FoldsTo e e')
    (hfoldable : e'.isFoldable = true) : e.Closed ∧ e'.evaluate none = e.evaluate none := by
  have hconstants : e.Parts fun p => ∀ {q}, p.FoldsTo q → (q.isConstant = true ↔ p.Closed) :=
    parts_iff.mpr fun _ _ _ hp => hp.isConstant_iff
  rcases (h.isFoldable_iff hconstants).mp hfoldable with ⟨hoperator, hoperands⟩
  have hsame : Rebuilt (SameOutcome none none) e e' :=
    h.imp_of_parts (parts_iff.mpr fun _ _ _ hp => hp.evaluate_eq none)
  exact ⟨.operator hoperator hoperands, (hsame.evaluate_eq fun _ => rfl).symm⟩

/-- An expression is folded exactly if each closed expression within it has a value. -/
theorem folds_iff :
    (∃ r, e.FoldsTo r) ↔ ∀ c : Expr, c.Within e → c.Closed → ∃ v, c.evaluate none = .ok v := by
  constructor
  · rintro ⟨r, h⟩ c hwithin hclosed
    rcases h.within hwithin with ⟨q, hq⟩
    exact hq.value_of_closed hclosed
  · intro h
    induction e using Expr.induct with
    | step e ih =>
        -- The closed expressions within a part are within the whole, so all parts fold.
        have hparts : e.Parts fun p => ∃ q, p.FoldsTo q := parts_iff.mpr fun p hp =>
          parts_iff.mp ih p hp fun c hc => h c (.part hp hc)
        rcases exists_rebuilt hparts with ⟨e', hrebuilt⟩
        cases hfoldable : e'.isFoldable with
        | false => exact ⟨e', foldsTo_iff_rebuilt.mpr ⟨e', hrebuilt, .inl ⟨hfoldable, rfl⟩⟩⟩
        | true =>
            rcases hrebuilt.closed_of_isFoldable hfoldable with ⟨hclosed, hsame⟩
            rcases h e .self hclosed with ⟨v, hv⟩
            rw [← hsame] at hv
            exact ⟨_, foldsTo_iff_rebuilt.mpr ⟨e', hrebuilt, .inr ⟨v, hfoldable, hv, rfl⟩⟩⟩

theorem folded_iff_folds : (∃ r, e.folded = .ok r) ↔ ∃ r, e.FoldsTo r := by
  constructor
  · rintro ⟨⟨r, n⟩, h⟩
    exact ⟨r, 0, n, h⟩
  · rintro ⟨r, h⟩
    rcases foldsTo_iff.mp h 0 with ⟨n, h⟩
    exact ⟨(r, n), h⟩

/-- Where folding fails, it fails as a closed expression within the expression does. -/
theorem fold_eq_error_closed {n : Nat} {err : QueryError} (h : e.fold.run n = .error err) :
    ∃ c : Expr, c.Within e ∧ c.Closed ∧ c.evaluate none = .error err := by
  induction e using Expr.induct generalizing n err with
  | step e ih =>
      refine fold_eq_error (P := fun err => ∃ c : Expr, c.Within e ∧ c.Closed ∧
        c.evaluate none = .error err) ?_ ?_ h
      · refine parts_iff.mpr fun p hp n err hfails => ?_
        rcases parts_iff.mp ih p hp hfails with ⟨c, hwithin, hclosed, hvalue⟩
        exact ⟨c, .part hp hwithin, hclosed, hvalue⟩
      · intro e' hrebuilt hfoldable err hvalue
        rcases hrebuilt.closed_of_isFoldable hfoldable with ⟨hclosed, hsame⟩
        exact ⟨e, .self, hclosed, hsame ▸ hvalue⟩

/-! ### What evaluation looks at -/

/-- What stands within the right operand of an operator whose left operand may decide. -/
def Guarded (c e : Expr) : Prop :=
  ∃ op l r, BinaryOp.skipsRight op = true ∧ (binary op l r).Within e ∧ c.Within r

theorem left_of_evaluate {op : BinaryOp} {l r : Expr} (h : (binary op l r).evaluate row = .ok v) :
    ∃ w, l.evaluate row = .ok w := by
  cases hop : op.skipsRight with
  | false =>
      rw [evaluate_of_not_skipsRight hop] at h
      exact Except.exists_of_bind_eq_ok h
  | true =>
      cases op with
      | and | andAlso | or | orElse | coalesce =>
          rw [evaluate] at h
          exact Except.exists_of_bind_eq_ok h
      | _ => cases hop

theorem right_of_evaluate {op : BinaryOp} (hop : op.skipsRight = false) {l r : Expr}
    (h : (binary op l r).evaluate row = .ok v) : ∃ w, r.evaluate row = .ok w := by
  rw [evaluate_of_not_skipsRight hop] at h
  rcases Except.bind_eq_ok.mp h with ⟨_, _, h⟩
  exact Except.exists_of_bind_eq_ok h

theorem each_of_evaluateEach {es : List Expr} :
    ∀ {vs : List Value}, evaluateEach row es = .ok vs → ∀ e ∈ es, ∃ w, e.evaluate row = .ok w := by
  induction es with
  | nil => exact fun _ _ he => nomatch he
  | cons head es ih =>
      intro vs h
      rw [evaluateEach] at h
      rcases Except.bind_eq_ok.mp h with ⟨w, hw, h⟩
      rcases Except.exists_of_bind_eq_ok h with ⟨ws, hws⟩
      exact List.forall_mem_cons.mpr ⟨⟨w, hw⟩, ih hws⟩

theorem each_of_evaluateMembers {ms : List (String × Expr)} :
    ∀ {vs : List (String × Value)}, evaluateMembers row ms = .ok vs →
      ∀ m ∈ ms, ∃ w, m.2.evaluate row = .ok w := by
  induction ms with
  | nil => exact fun _ _ hm => nomatch hm
  | cons head ms ih =>
      rcases head with ⟨name, e⟩
      intro vs h
      rw [evaluateMembers] at h
      rcases Except.bind_eq_ok.mp h with ⟨w, hw, h⟩
      rcases Except.exists_of_bind_eq_ok h with ⟨ws, hws⟩
      exact List.forall_mem_cons.mpr ⟨⟨w, hw⟩, ih hws⟩

/-- The methods that have a value on a receiver look at it. -/
theorem receiver_of_apply {method : Method} {receiver : Except QueryError Value}
    {arguments : List Value} (h : method.apply (some receiver) arguments = .ok v) :
    ∃ w, receiver = .ok w := by
  unfold Method.apply at h
  split at h
  case h_3 hreceiver | h_4 hreceiver | h_5 hreceiver =>
    cases hreceiver
    exact Except.exists_of_bind_eq_ok h
  all_goals contradiction

/-- With an expression each part has been evaluated, unless it is the right operand of an
    operator whose left operand may decide. -/
theorem part_of_evaluate (h : e.evaluate row = .ok v) {p : Expr} (hp : p ∈ e.parts) :
    (∃ w, p.evaluate row = .ok w) ∨ ∃ op l, BinaryOp.skipsRight op = true ∧ e = .binary op l p := by
  cases e with
  | constant w | parameter name | field f | rowField path | collection w => cases hp
  | member e name | unary op e =>
      rw [evaluate] at h
      rw [List.mem_singleton.mp hp]
      exact .inl (Except.exists_of_bind_eq_ok h)
  | binary op l r =>
      rcases List.mem_cons.mp hp with rfl | hp
      · exact .inl (left_of_evaluate h)
      · rw [List.mem_singleton.mp hp]
        -- A conjunction or disjunction may be decided by its left side, without a look at the right
        -- one.
        cases hop : op.skipsRight with
        | true => exact .inr ⟨op, l, hop, rfl⟩
        | false => exact .inl (right_of_evaluate hop h)
  | call method receiver arguments =>
      rw [evaluate] at h
      rcases Except.bind_eq_ok.mp h with ⟨ws, hws, h⟩
      rcases List.mem_append.mp hp with hp | hp
      · rw [Option.mem_toList] at hp
        cases hp
        exact .inl (receiver_of_apply h)
      · exact .inl (each_of_evaluateEach hws p hp)
  | object members =>
      rw [evaluate] at h
      rcases Except.exists_of_bind_eq_ok h with ⟨ws, hws⟩
      rcases List.mem_map.mp hp with ⟨m, hm, rfl⟩
      exact .inl (each_of_evaluateMembers hws m hm)
  | aggregate kind argument distinct | select s | projection s e | subquery s =>
      rw [evaluate] at h
      cases h

/-- What stands within an expression has been evaluated with it or is guarded. -/
theorem evaluated_or_guarded (hwithin : c.Within e) (h : e.evaluate row = .ok v) :
    (∃ w, c.evaluate row = .ok w) ∨ c.Guarded e := by
  induction hwithin generalizing v with
  | self => exact .inl ⟨v, h⟩
  | part mem within ih =>
      rcases part_of_evaluate h mem with ⟨w, hw⟩ | ⟨op, l, hop, rfl⟩
      · rcases ih hw with hvalue | ⟨op, l, r, hop, hbinary, hc⟩
        · exact .inl hvalue
        · exact .inr ⟨op, l, r, hop, .part mem hbinary, hc⟩
      · exact .inr ⟨op, l, _, hop, .self, within⟩

theorem Guarded.within (h : c.Guarded e) : c.Within e := by
  rcases h with ⟨op, l, r, _, hbinary, hc⟩
  have hr : r.Within (.binary op l r) := .part (List.mem_cons_of_mem _ List.mem_cons_self) .self
  exact hc.trans (hr.trans hbinary)

/-! ### Folding of what has a value -/

/-- An expression with a value at some row is folded exactly if each guarded closed
    expression within it has a value, and otherwise the failure is that of such an
    expression. -/
theorem folded_of_value (h : e.evaluate row = .ok v) :
    ((∃ r, e.folded = .ok r) ↔
      ∀ c : Expr, c.Guarded e → c.Closed → ∃ w, c.evaluate none = .ok w) ∧
      ∀ err, e.folded = .error err →
        ∃ c : Expr, c.Guarded e ∧ c.Closed ∧ c.evaluate none = .error err := by
  -- A closed expression that has been evaluated has its value without a row as well.
  have hvalue {c : Expr} (hwithin : c.Within e) (hclosed : c.Closed) :
      (∃ w, c.evaluate none = .ok w) ∨ c.Guarded e := by
    rcases evaluated_or_guarded hwithin h with ⟨w, hw⟩ | hguarded
    · exact .inl ⟨w, hclosed.evaluate_eq row none ▸ hw⟩
    · exact .inr hguarded
  constructor
  · rw [folded_iff_folds, folds_iff]
    constructor
    · intro hfolds c hguarded hclosed
      exact hfolds c hguarded.within hclosed
    · intro hguards c hwithin hclosed
      rcases hvalue hwithin hclosed with hw | hguarded
      · exact hw
      · exact hguards c hguarded hclosed
  · intro err herr
    rcases fold_eq_error_closed herr with ⟨c, hwithin, hclosed, hfails⟩
    rcases hvalue hwithin hclosed with ⟨w, hw⟩ | hguarded
    · rw [hfails] at hw
      cases hw
    · exact ⟨c, hguarded, hclosed, hfails⟩

end Expr

namespace NullCheck

/-- A test of a member of a value, behind a check that there is a value. -/
def grownUp (person : Value) : Expr :=
  .binary .andAlso (.binary .notEqual (.constant person) (.constant .null))
    (.binary .greater (.member (.constant person) "Age") (.constant (.int32 21)))

/-- Somebody of an age. -/
def somebody : Value :=
  .document (.ofList [("Age", .int32 30)])

/-- For somebody the test is folded, and all that the check guards has a value. For nobody it
    is not folded, as something that the check guards has none. -/
theorem grownUp_folded :
    (∃ r, (grownUp somebody).folded = .ok r) ∧
      (∀ c : Expr, c.Guarded (grownUp somebody) → c.Closed → ∃ w, c.evaluate none = .ok w) ∧
      ∃ c : Expr, c.Guarded (grownUp .null) ∧ c.Closed ∧
        c.evaluate none = .error (.evaluation (.noMember .null "Age")) := by
  have hsomebody : (grownUp somebody).evaluate none = .ok (.boolean true) := by
    with_unfolding_all rfl
  have hnobody : (grownUp .null).evaluate none = .ok (.boolean false) := by
    with_unfolding_all rfl
  have hfolded : ∃ r, (grownUp somebody).folded = .ok r :=
    ⟨(.constant (.boolean true), 4), by with_unfolding_all rfl⟩
  have hfails : (grownUp .null).folded = .error (.evaluation (.noMember .null "Age")) := by rfl
  exact ⟨hfolded, (Expr.folded_of_value hsomebody).1.mp hfolded,
    (Expr.folded_of_value hnobody).2 _ hfails⟩

/-- The test is false for nobody, at every row and without one, and folding it fails. -/
theorem grownUp_not_folded :
    (grownUp .null).IsShape ∧ (∀ row, (grownUp .null).evaluate row = .ok (.boolean false)) ∧
      (grownUp .null).folded = .error (.evaluation (.noMember .null "Age")) := by
  refine ⟨?_, ?_, by rfl⟩
  · have hmember : (Expr.member (.constant .null) "Age").IsShape :=
      .member (.constant _) (by decide)
    exact .binary _ (.binary _ (.constant _) (.constant _)) (.binary _ hmember (.constant _))
  · intro row
    with_unfolding_all rfl

end NullCheck

end DocumentMapper
