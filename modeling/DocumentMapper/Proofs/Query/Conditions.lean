import DocumentMapper.Proofs.Query.Appearance
import DocumentMapper.Proofs.Query.FoldedParts
import DocumentMapper.Proofs.Query.Rebinding

/-!
# What a filter adds

Once it is folded and bound, a filter stands for a predicate, and the predicate places its
atoms into the condition document of what the filter is put around. Nothing else of a
filter gets into the translation. A conjunction adds what its two operands add one after
the other, also if both were constants and it was folded away. Expressions that are alike
add the same, for rows of one class.

## Main definitions

* `Expr.StandsFor`: The predicate of a filter after folding and binding.
* `Expr.Adds`: What a filter adds to a condition document.

## Theorems

* `adds_of_isConjunction`: A conjunction adds what its operands add.
* `Alike.adds_iff`: Expressions that are alike add the same.
-/

namespace DocumentMapper

namespace Expr

variable {store : Option Store} {rows rows' : Rows} {e e' : Expr} {d d' : Document}

/-- The predicate of a filter on some rows after folding and binding. -/
def StandsFor (store : Option Store) (rows : Rows) (e : Expr) (p : Predicate) : Prop :=
  ∃ e₁ e₂, e.FoldsTo e₁ ∧ e₁.BindsTo store (some rows) e₂ ∧ e₂.predicate? = some p

/-- What a filter makes of the condition document of the rows that it is put around. -/
def Adds (store : Option Store) (rows : Rows) (e : Expr) (d d' : Document) : Prop :=
  ∃ p, e.StandsFor store rows p ∧ p.place [] d = .ok d'

/-- Conditions are accepted exactly if the expression stands for a predicate, and then its
    atoms are placed. -/
theorem addConditions_eq_ok {scopes : List Scope} :
    e.addConditions scopes d = .ok d' ↔
      ∃ p, e.predicate? = some p ∧ p.place scopes d = .ok d' := by
  have hplaces := e.places
  cases hp : e.predicate? with
  | none =>
      rw [hp] at hplaces
      constructor
      · intro h
        exact (hplaces scopes d d' h).elim
      · rintro ⟨p, h, _⟩
        cases h
  | some p =>
      rw [hp] at hplaces
      have hplace : e.addConditions scopes d = p.place scopes d := hplaces scopes d
      rw [hplace]
      constructor
      · intro h
        exact ⟨p, rfl, h⟩
      · rintro ⟨q, h, hplace⟩
        rw [Option.some.inj h]
        exact hplace

/-- Expressions that are alike stand for the same predicate on rows of one class. -/
theorem Alike.standsFor_iff (h : Alike True e e')
    (hclass : rows.documentClass = rows'.documentClass) {p : Predicate} :
    e.StandsFor store rows p ↔ e'.StandsFor store rows' p := by
  have hbind : ∀ {r r' : Expr}, Alike True r r' →
      Except.Agree (Alike True) (r.bind store (some rows)) (r'.bind store (some rows')) :=
    fun halike => halike.bind (congrArg some hclass)
  constructor
  · rintro ⟨e₁, e₂, ⟨n, m, hfold⟩, hbound, hpredicate⟩
    rcases (h.fold n n).exists_right hfold with ⟨⟨e₁', m'⟩, hfold', halike⟩
    rcases (hbind halike).exists_right hbound with ⟨e₂', hbound', halike'⟩
    exact ⟨e₁', e₂', ⟨n, m', hfold'⟩, hbound', halike'.predicate?_eq.symm.trans hpredicate⟩
  · rintro ⟨e₁', e₂', ⟨n, m, hfold⟩, hbound, hpredicate⟩
    rcases (h.fold n n).exists_left hfold with ⟨⟨e₁, m'⟩, hfold', halike⟩
    rcases (hbind halike).exists_left hbound with ⟨e₂, hbound', halike'⟩
    exact ⟨e₁, e₂, ⟨n, m', hfold'⟩, hbound', halike'.predicate?_eq.trans hpredicate⟩

/-- Expressions that are alike add the same on rows of one class. -/
theorem Alike.adds_iff (h : Alike True e e') (hclass : rows.documentClass = rows'.documentClass) :
    e.Adds store rows d d' ↔ e'.Adds store rows' d d' := by
  unfold Adds
  simp only [h.standsFor_iff hclass]

/-! ### Conjunctions -/

/-- Of the constants only true stands for a predicate, and it adds nothing. -/
theorem predicate?_constant {v : Value} {p : Predicate} (h : (constant v).predicate? = some p) :
    v = .boolean true ∧ p = .true := by
  cases v with
  | boolean b =>
      cases b with
      | true => exact ⟨rfl, (Option.some.inj h).symm⟩
      | false => cases h
  | _ => cases h

theorem adds_of_foldsTo_true (h : e.FoldsTo (.constant (.boolean true))) :
    e.Adds store rows d d :=
  ⟨.true, ⟨_, _, h, bind_form rfl, rfl⟩, rfl⟩

/-- A conjunction of constants that is true has operands that are true. -/
theorem evaluate_conjunction_constant {op : BinaryOp} (hop : op.isConjunction = true)
    {u w : Value}
    (h : (binary op (constant u) (constant w)).evaluate none = .ok (.boolean true)) :
    u = .boolean true ∧ w = .boolean true := by
  -- Only a boolean has a truth value, and it is that of itself.
  have truth : ∀ {v : Value} {b : Bool}, v.truth = .ok b → v = .boolean b := by
    intro v b hv
    cases v with
    | boolean c => rw [Except.ok.inj hv]
    | _ => cases hv
  rw [evaluate_conjunction hop] at h
  simp only [evaluate, Except.ok_bind] at h
  rcases Except.bind_eq_ok.mp h with ⟨b, hb, h⟩
  cases b with
  | false => cases h
  | true =>
      rcases Except.bind_eq_ok.mp h with ⟨c, hc, h⟩
      cases c with
      | false => cases h
      | true => exact ⟨truth hb, truth hc⟩

/-- What a conjunction adds its operands add, one after the other. -/
theorem Adds.exists_operands {op : BinaryOp} (hop : op.isConjunction = true) {left right : Expr}
    {d'' : Document} (h : (binary op left right).Adds store rows d d'') :
    ∃ d', left.Adds store rows d d' ∧ right.Adds store rows d' d'' := by
  rcases h with ⟨p, ⟨e₁, e₂, hfold, hbind, hpredicate⟩, hplace⟩
  rcases foldsTo_binary_iff.mp hfold with
    ⟨left', right', hleft, hright, ⟨_, rfl⟩ | ⟨v, hconst, hv, rfl⟩⟩
  · rcases bindsTo_binary hbind with ⟨l, r, hl, hr, rfl⟩
    rw [predicate?, if_pos hop] at hpredicate
    rcases Option.bind_eq_some_iff.mp hpredicate with ⟨pl, hpl, hpredicate⟩
    rcases Option.bind_eq_some_iff.mp hpredicate with ⟨pr, hpr, hp⟩
    rw [← Option.some.inj hp] at hplace
    rcases Except.bind_eq_ok.mp hplace with ⟨d', hd', hd''⟩
    exact ⟨d', ⟨pl, ⟨_, _, hleft, hl, hpl⟩, hd'⟩, pr, ⟨_, _, hright, hr, hpr⟩, hd''⟩
  · -- Both operands are constants, and they are true.
    rw [isFoldable, Bool.and_eq_true] at hconst
    rcases Alike.exists_constant hconst.1 with ⟨u, rfl⟩
    rcases Alike.exists_constant hconst.2 with ⟨w, rfl⟩
    rw [hbind.eq_of_isLeaf rfl] at hpredicate
    rcases predicate?_constant hpredicate with ⟨rfl, rfl⟩
    rcases evaluate_conjunction_constant hop hv with ⟨rfl, rfl⟩
    rw [← Except.ok.inj hplace]
    exact ⟨d, adds_of_foldsTo_true hleft, adds_of_foldsTo_true hright⟩

/-- What the operands add, one after the other, their conjunction adds. -/
theorem Adds.conjunction {op : BinaryOp} (hop : op.isConjunction = true) {left right : Expr}
    {d' d'' : Document} (hleft : left.Adds store rows d d')
    (hright : right.Adds store rows d' d'') :
    (binary op left right).Adds store rows d d'' := by
  rcases hleft with ⟨pl, ⟨left', l, hleft, hl, hpl⟩, hd'⟩
  rcases hright with ⟨pr, ⟨right', r, hright, hr, hpr⟩, hd''⟩
  -- A conjunction of constants is folded away, any other one is left with its operands.
  by_cases hconst : (binary op left' right').isFoldable = true
  · rw [isFoldable, Bool.and_eq_true] at hconst
    rcases Alike.exists_constant hconst.1 with ⟨u, rfl⟩
    rcases Alike.exists_constant hconst.2 with ⟨w, rfl⟩
    rw [hl.eq_of_isLeaf rfl] at hpl
    rw [hr.eq_of_isLeaf rfl] at hpr
    rcases predicate?_constant hpl with ⟨rfl, rfl⟩
    rcases predicate?_constant hpr with ⟨rfl, rfl⟩
    rw [← Except.ok.inj hd'', ← Except.ok.inj hd']
    have htrue : (binary op (constant (.boolean true)) (constant (.boolean true))).evaluate none =
        .ok (.boolean true) := by
      rw [evaluate_conjunction hop]
      rfl
    exact adds_of_foldsTo_true (foldsTo_binary_iff.mpr ⟨_, _, hleft, hright,
      .inr ⟨_, rfl, htrue, rfl⟩⟩)
  · refine ⟨.and pl pr, ⟨binary op left' right', binary op l r, ?_, ?_, ?_⟩, ?_⟩
    · exact foldsTo_binary_iff.mpr ⟨left', right', hleft, hright,
        .inl ⟨Bool.eq_false_iff.mpr hconst, rfl⟩⟩
    · have hbound : (binary op left' right').bindOperands store (some rows) =
          .ok (binary op l r) :=
        Except.bind_eq_ok.mpr ⟨l, hl, Except.bind_eq_ok.mpr ⟨r, hr, rfl⟩⟩
      exact (bind_form rfl).trans hbound
    · rw [predicate?, if_pos hop, hpl, hpr]
      rfl
    · exact Except.bind_eq_ok.mpr ⟨d', hd', hd''⟩

/-- A conjunction adds what its operands add, one after the other. -/
theorem adds_of_isConjunction {op : BinaryOp} (hop : op.isConjunction = true) {left right : Expr}
    {d'' : Document} :
    (binary op left right).Adds store rows d d'' ↔
      ∃ d', left.Adds store rows d d' ∧ right.Adds store rows d' d'' :=
  ⟨Adds.exists_operands hop, fun ⟨_, hleft, hright⟩ => hleft.conjunction hop hright⟩

/-- The same for the operator that filters are written with. -/
theorem adds_conjunction {left right : Expr} {d'' : Document} :
    (binary .andAlso left right).Adds store rows d d'' ↔
      ∃ d', left.Adds store rows d d' ∧ right.Adds store rows d' d'' :=
  adds_of_isConjunction rfl

end Expr

end DocumentMapper
