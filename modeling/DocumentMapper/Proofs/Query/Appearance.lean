import DocumentMapper.Proofs.Query.Alike
import DocumentMapper.Query.Ordering

/-!
# What a filter is seen by

The predicate that a filter stands for is read off its operators, and of what these are
applied to only off constants, fields and lengths of fields. Expressions that look the same
in this respect make the same atoms. Those that are alike do, and so does what hoisting makes
of an expression, which changes nothing but levels.

## Main definitions

* `Expr.LooksLike`: Expressions that make the same atoms.
* `Expr.HoistsTo`: What hoisting makes of an expression.

## Theorems

* `comparisonAtom?_congr`, `callAtom?_congr`: Atoms of expressions that look the same.
* `Alike.predicate?_eq`: Expressions that are alike stand for the same predicate.
* `HoistsTo.predicate?_eq`: Hoisting does not change what an expression stands for.
-/

namespace DocumentMapper

namespace Expr

/-- Expressions that are the same constant, the same path, or the length of the same path, if
    the one of them is. -/
structure LooksLike (e e' : Expr) : Prop where
  constant : e.asConstant? = e'.asConstant?
  field : e.asField?.map FieldRef.path = e'.asField?.map FieldRef.path
  operand : e.asOperand?.map Operand.atom? = e'.asOperand?.map Operand.atom?

/-! ### Atoms -/

section

variable {e e' : Expr} {op : BinaryOp}

theorem size_congr (h : e.asField?.map FieldRef.path = e'.asField?.map FieldRef.path) :
    (e.asField?.map Operand.size).map Operand.atom? =
      (e'.asField?.map Operand.size).map Operand.atom? := by
  cases hf : e.asField? <;> cases hf' : e'.asField? <;> rw [hf, hf'] at h
  · cases h
  · cases h
  · rw [Option.map_some, Option.map_some, Option.map_some, Option.map_some, Option.some_inj]
    funext r v
    simp only [Operand.atom?, Option.some.inj h]

theorem member_operand_congr (h : e.asField?.map FieldRef.path = e'.asField?.map FieldRef.path)
    (name : String) : (member e name).asOperand?.map Operand.atom? =
      (member e' name).asOperand?.map Operand.atom? := by
  rw [asOperand?, asOperand?]
  split
  · exact size_congr h
  · rfl

theorem call_operand_congr {receiver receiver' : Option Expr} {arguments arguments' : List Expr}
    (method : Method) {R : Expr → Expr → Prop} (receives : Option.Rel R receiver receiver')
    (takes : List.Forall₂ R arguments arguments')
    (hfield : ∀ e e', R e e' → e.asField?.map FieldRef.path = e'.asField?.map FieldRef.path) :
    (call method receiver arguments).asOperand?.map Operand.atom? =
      (call method receiver' arguments').asOperand?.map Operand.atom? := by
  cases method with
  | count =>
      cases receives with
      | some _ => rfl
      | none =>
          cases takes with
          | nil => rfl
          | cons hR rest =>
              cases rest with
              | nil => exact size_congr (hfield _ _ hR)
              | cons _ _ => rfl
  | _ => rfl

/-- Comparisons whose sides look the same make the same atom. -/
theorem comparisonAtom?_congr {l l' r r' : Expr} (op : BinaryOp) (left : LooksLike l l')
    (right : LooksLike r r') : comparisonAtom? op l r = comparisonAtom? op l' r' := by
  -- Of the sides only their constants and the atoms of their operands are read.
  have hatoms : ∀ l r : Expr, comparisonAtom? op l r =
      (l.asOperand?.map Operand.atom?).elim
        ((r.asOperand?.map Operand.atom?).elim none fun atom? => do
          atom? (← op.relation?).converse (← l.asConstant?))
        fun atom? => (r.asOperand?.map Operand.atom?).elim
          (do atom? (← op.relation?) (← r.asConstant?)) fun _ => none := by
    intro l r
    unfold comparisonAtom?
    cases l.asOperand? <;> cases r.asOperand? <;> rfl
  rw [hatoms l, hatoms l', left.operand, right.operand, left.constant, right.constant]

/-- With its sides exchanged a comparison makes the same atom. -/
theorem comparisonAtom?_exchanged (left right : Expr) (h : op.isComparison = true) :
    comparisonAtom? op.exchanged right left = comparisonAtom? op left right := by
  unfold comparisonAtom?
  cases op with
  | equal | notEqual | greater | greaterOrEqual | less | lessOrEqual =>
      cases left.asOperand? <;> cases right.asOperand? <;> rfl
  | _ => cases h

/-- Text tests whose operands look the same make the same atom. -/
theorem callAtom?_congr {receiver receiver' : Option Expr} {arguments arguments' : List Expr}
    (method : Method) (receives : Option.Rel LooksLike receiver receiver')
    (takes : List.Forall₂ LooksLike arguments arguments') :
    callAtom? method receiver arguments = callAtom? method receiver' arguments' := by
  have text : ∀ {x x' : Option Expr}, Option.Rel LooksLike x x' →
      x.bind asText? = x'.bind asText? := by
    intro x x' hx
    refine bind_eq_of_rel hx fun e e' he => ?_
    rw [asText?, asText?, he.constant]
  -- Fields may differ in their labels, which atoms do not have.
  have field : ∀ {x x' : Option Expr}, Option.Rel LooksLike x x' →
      (x.bind asField? = none ∧ x'.bind asField? = none) ∨
        ∃ f f', x.bind asField? = some f ∧ x'.bind asField? = some f' ∧ f.path = f'.path := by
    intro x x' hx
    have hpath : (x.bind asField?).map FieldRef.path = (x'.bind asField?).map FieldRef.path := by
      rw [Option.map_bind, Option.map_bind]
      exact bind_eq_of_rel hx fun e e' he => he.field
    cases hf : x.bind asField? <;> cases hf' : x'.bind asField? <;> rw [hf, hf'] at hpath
    · exact .inl ⟨rfl, rfl⟩
    · cases hpath
    · cases hpath
    · exact .inr ⟨_, _, rfl, rfl, Option.some.inj hpath⟩
  have item := rel_getElem? takes
  cases method with
  | startsWith | endsWith | contains =>
      unfold callAtom?
      rw [text (item 0)]
      rcases field receives with ⟨hf, hf'⟩ | ⟨f, f', hf, hf', hpath⟩
      · simp only [hf, hf']
      · simp only [hf, hf', Option.bind_eq_bind, Option.bind_some, hpath]
  | isMatch =>
      cases receives with
      | some _ => rfl
      | none =>
          unfold callAtom?
          rw [text (item 1)]
          rcases field (item 0) with ⟨hf, hf'⟩ | ⟨f, f', hf, hf', hpath⟩
          · simp only [hf, hf']
          · simp only [hf, hf', Option.bind_eq_bind, Option.bind_some, hpath]
  | count | other name => rfl

end

/-! ### Expressions that are alike -/

section

variable {free : Prop} {e e' : Expr}

theorem Alike.looksLike (h : Alike free e e') : LooksLike e e' where
  constant := h.asConstant?_eq
  field := h.asField?_path_eq
  operand := by
    cases h with
    | member operand name => exact member_operand_congr operand.asField?_path_eq name
    | call method parts receives takes =>
        exact call_operand_congr method receives takes fun e e' hR =>
          (parts e e' hR).asField?_path_eq
    | _ => rfl

/-- Expressions that are alike stand for the same predicate. -/
theorem Alike.predicate?_eq (h : Alike free e e') : e.predicate? = e'.predicate? := by
  induction h with
  | binary op left right ihl ihr =>
      rw [predicate?, predicate?, ihl, ihr, comparisonAtom?_congr op left.looksLike right.looksLike]
  | exchanged allowed comparison left right ihl ihr =>
      -- No conjunction is a comparison, so an exchanged operation takes the branch of an atom.
      have hop : ∀ {op : BinaryOp}, op.isComparison = true → ¬ op.isConjunction = true := by
        intro op
        cases op <;> decide
      have comparison' := comparison
      rw [← BinaryOp.isComparison_exchanged] at comparison'
      rw [predicate?, predicate?, if_neg (hop comparison), if_neg (hop comparison'),
        comparisonAtom?_exchanged _ _ comparison,
        comparisonAtom?_congr _ left.looksLike right.looksLike]
  | unary op operand ih =>
      cases op with
      | not => rw [predicate?, predicate?, ih]
      | negate => rfl
  | call method parts receives takes =>
      have receives' := rel_imp_of_mem receives fun e _ e' hR => (parts e e' hR).looksLike
      have takes' := forall₂_imp_of_mem takes fun e _ e' hR => (parts e e' hR).looksLike
      rw [predicate?, predicate?, callAtom?_congr method receives' takes']
  | _ => rfl

end

/-! ### Hoisting -/

/-- What hoisting makes of an expression, whatever is gathered. -/
def HoistsTo (outermost : Bool) (e e' : Expr) : Prop :=
  ∃ g, ((e.hoist outermost).run g).1 = e'

end Expr

/-- What a run of hoisting gives, whatever is gathered. -/
def Hoisting.results : Results Hoisting where
  gives x a := ∃ g, (x.run g).1 = a
  pure_iff := ⟨fun ⟨_, h⟩ => h, fun h => ⟨{}, h⟩⟩
  of_bind := by
    rintro α β x f b ⟨g, h⟩
    exact ⟨(x.run g).1, ⟨g, rfl⟩, (x.run g).2, h⟩

section

variable {outermost : Bool}

namespace Expr

variable {e e' : Expr}

/-- Hoisting replaces the parts of what is no query. -/
theorem HoistsTo.rebuilt (h : e.HoistsTo outermost e') (hquery : e.isQuery = false) :
    Rebuilt (HoistsTo outermost) e e' := by
  unfold HoistsTo at h
  rw [hoist_eq_traverse outermost hquery] at h
  exact Hoisting.results.rebuilt h

/-- Hoisting changes nothing in an expression but its levels. -/
theorem HoistsTo.looksLike (h : e.HoistsTo outermost e') : LooksLike e e' := by
  have hfield : ∀ e e' : Expr, e.HoistsTo outermost e' →
      e.asField?.map FieldRef.path = e'.asField?.map FieldRef.path := by
    rintro e _ ⟨g, rfl⟩
    cases e <;> rw [hoist] <;> rfl
  refine ⟨?_, hfield e e' h, ?_⟩
  · rcases h with ⟨g, rfl⟩
    cases e <;> rw [hoist] <;> rfl
  · -- A query stays a query, and none of the forms that are looked at is one.
    cases hquery : e.isQuery with
    | false =>
        cases h.rebuilt hquery with
        | member operand name => exact member_operand_congr (hfield _ _ operand) name
        | call method receives takes => exact call_operand_congr method receives takes hfield
        | _ => rfl
    | true =>
        rcases h with ⟨g, rfl⟩
        cases e with
        | select s | projection s e | subquery s =>
            rw [hoist]
            rfl
        | _ => cases hquery

/-- Hoisting does not change what an expression stands for. -/
theorem HoistsTo.predicate?_eq (e : Expr) :
    ∀ {e' : Expr}, e.HoistsTo outermost e' → e'.predicate? = e.predicate? := by
  fun_induction Expr.predicate? e with
  | case1 op l r hop ihl ihr =>
      intro e' h
      cases h.rebuilt rfl with
      | binary _ hl hr => rw [predicate?, if_pos hop, ihl hl, ihr hr]
  | case2 op l r hop =>
      intro e' h
      cases h.rebuilt rfl with
      | binary _ hl hr =>
          rw [predicate?, if_neg hop, comparisonAtom?_congr op hl.looksLike hr.looksLike]
  | case3 e ih =>
      intro e' h
      cases h.rebuilt rfl with
      | unary _ operand => rw [predicate?, ih operand]
  | case4 method receiver arguments =>
      intro e' h
      cases h.rebuilt rfl with
      | call _ receives takes =>
          have receives := rel_imp_of_mem receives fun _ _ _ he => HoistsTo.looksLike he
          have takes := forall₂_imp_of_mem takes fun _ _ _ he => HoistsTo.looksLike he
          rw [predicate?, callAtom?_congr method receives takes]
  | case5 =>
      rintro e' ⟨g, rfl⟩
      rw [hoist]
      rfl
  -- What stands for no predicate, whatever hoisting makes of it.
  | case6 e hbinary hnot hcall htrue =>
      rintro e' ⟨g, rfl⟩
      cases e with
      | binary op l r => exact (hbinary op l r rfl).elim
      | call method receiver arguments => exact (hcall method receiver arguments rfl).elim
      | unary op e =>
          cases op with
          | not => exact (hnot e rfl).elim
          | negate => rw [hoist]; rfl
      | constant v =>
          rw [hoist]
          cases v with
          | boolean b =>
              cases b with
              | true => exact (htrue rfl).elim
              | false => rfl
          | _ => rfl
      | _ => rw [hoist]; rfl

end Expr

end

end DocumentMapper
