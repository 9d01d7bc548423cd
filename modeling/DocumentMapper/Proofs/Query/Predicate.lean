import DocumentMapper.Proofs.Data.Except
import DocumentMapper.Query.Filter

/-!
# Predicates and condition documents

A filter is written as an expression and sent as a condition document, and both say
which rows are meant. To compare the two, the tests in them are taken as atoms: a field
stands in a relation to a constant, and an assignment says which atoms are true. A
predicate is built from atoms by conjunction and negation. A condition document is read
from the outside: its entries all have to be true, an operator document makes all of
its operators true, and `$not` denies everything beneath it.

An assignment must not tell equal constants apart. A document keeps one of two zeros
that are compared in the same way, since the two are equal as stored values.

What the translation does with a filter depends on its predicate only. `Predicate.place`
goes through a predicate and places one atom after another, and `Expr.places` says that
the translation of an expression does just that, and that it accepts no expression
without a predicate.

## Main definitions

* `Relation`, `Atom`, `Assignment`: Tests and their truth.
* `Predicate`, `Expr.predicate?`: The predicate that a filter stands for.
* `Predicate.truth`, `Document.truth`: The truth of a predicate and of a document.
* `Predicate.place`: The translation on predicates.
* `Places`: A translation that does what `Predicate.place` does.

## Theorems

* `places_comparison`, `places_call`: A single test is placed as its atom.
* `Expr.places`: A filter is placed as its predicate.
-/

namespace DocumentMapper

/-- How what a test reads stands to the constant of the test. -/
inductive Relation where
  | equal | notEqual | greater | greaterOrEqual | less | lessOrEqual
  /-- The number of items is the constant. -/
  | size
deriving DecidableEq, Repr

namespace Relation

/-- The relation with the constant on the left. -/
def converse : Relation → Relation
  | greater => less
  | greaterOrEqual => lessOrEqual
  | less => greater
  | lessOrEqual => greaterOrEqual
  | other => other

/-- Whether a relation holds after a comparison with this outcome. -/
def allows : Relation → Ordering → Bool
  | equal, o => o == .eq
  | size, o => o == .eq
  | notEqual, o => o != .eq
  | greater, o => o == .gt
  | greaterOrEqual, o => o != .lt
  | less, o => o == .lt
  | lessOrEqual, o => o != .gt

/-- The key of a relation in an operator document. Equality has none. -/
def key? : Relation → Option String
  | equal => none
  | notEqual => some "$ne"
  | greater => some "$gt"
  | greaterOrEqual => some "$gte"
  | less => some "$lt"
  | lessOrEqual => some "$lte"
  | size => some "$size"

/-- The relation that a key of an operator document stands for. -/
def ofKey? (key : String) : Option Relation :=
  [notEqual, greater, greaterOrEqual, less, lessOrEqual, size].find? (·.key? = some key)

theorem ofKey?_of_key? {r : Relation} {key : String} (h : r.key? = some key) :
    ofKey? key = some r := by
  cases r with
  | equal => cases h
  | notEqual | greater | greaterOrEqual | less | lessOrEqual | size =>
      rw [← Option.some.inj h]
      rfl

theorem ne_not_of_key? {r : Relation} {key : String} (h : r.key? = some key) : key ≠ "$not" := by
  cases r with
  | equal => cases h
  | notEqual | greater | greaterOrEqual | less | lessOrEqual | size =>
      rw [← Option.some.inj h]
      decide

end Relation

/-- A test: what the name of a field reads stands in a relation to a constant. -/
structure Atom where
  field : String
  relation : Relation
  constant : Value

/-- The truth of every atom. Equal constants make no difference. -/
structure Assignment where
  holds : Atom → Bool
  congr : ∀ field relation v w, (v == w) = true →
    holds ⟨field, relation, v⟩ = holds ⟨field, relation, w⟩

/-- A predicate over the fields of a row. -/
inductive Predicate where
  | true
  | atom (a : Atom)
  | and (p q : Predicate)
  | not (p : Predicate)

namespace Predicate

/-- The atoms in the order of writing, each as often as it is written. -/
def atoms : Predicate → List Atom
  | true => []
  | atom a => [a]
  | and p q => p.atoms ++ q.atoms
  | not p => p.atoms

/-- The fields of the atoms. -/
def fields (p : Predicate) : List String :=
  p.atoms.map Atom.field

/-- The truth of a predicate. -/
def truth (t : Assignment) : Predicate → Bool
  | true => Bool.true
  | atom a => t.holds a
  | and p q => p.truth t && q.truth t
  | not p => !p.truth t

end Predicate

/-! ### The predicate of a filter -/

/-- The relation of a comparison. -/
def BinaryOp.relation? : BinaryOp → Option Relation
  | equal => some .equal
  | notEqual => some .notEqual
  | greater => some .greater
  | greaterOrEqual => some .greaterOrEqual
  | less => some .less
  | lessOrEqual => some .lessOrEqual
  | _ => none

/-- The atom of a relation between what reads a field and a constant. A number of items
    can only be equal to it. -/
def Operand.atom? (x : Operand) (r : Relation) (v : Value) : Option Atom :=
  match x with
  | .field f => some ⟨f.path, r, v⟩
  | .size f => if r = .equal then some ⟨f.path, .size, v⟩ else none

/-- The atom of a comparison, which has a field on one side and a constant on the other. -/
def comparisonAtom? (op : BinaryOp) (left right : Expr) : Option Atom :=
  match left.asOperand?, right.asOperand? with
  | some x, none => do x.atom? (← op.relation?) (← right.asConstant?)
  | none, some x => do x.atom? (← op.relation?).converse (← left.asConstant?)
  | _, _ => none

/-- The atom of a text test: the field is equal to a regular expression. -/
def callAtom? (method : Method) (receiver : Option Expr) (arguments : List Expr) : Option Atom :=
  match method with
  | .startsWith | .endsWith | .contains => do
    let f ← receiver.bind Expr.asField?
    let text ← arguments[0]?.bind Expr.asText?
    return ⟨f.path, .equal, .pattern ⟨method.pattern text, ""⟩⟩
  | .isMatch =>
    if receiver.isSome then none
    else do
      let f ← arguments[0]?.bind Expr.asField?
      let pattern ← arguments[1]?.bind Expr.asText?
      return ⟨f.path, .equal, .pattern ⟨pattern, ""⟩⟩
  | _ => none

/-- The predicate that an expression stands for. -/
def Expr.predicate? : Expr → Option Predicate
  | .binary op l r =>
    if op.isConjunction then do return .and (← l.predicate?) (← r.predicate?)
    else .atom <$> comparisonAtom? op l r
  | .unary .not e => .not <$> e.predicate?
  | .call method receiver arguments => .atom <$> callAtom? method receiver arguments
  | .constant (.boolean true) => some .true
  | _ => none

/-! ### The reading of condition documents -/

mutual

/-- Whether what stands under the name of a field is true of the field: all operators of
    an operator document, and otherwise equality. -/
def Value.demand (t : Assignment) (field : String) : Value → Bool
  | .document d => d.demand t field
  | v => t.holds ⟨field, .equal, v⟩

/-- Whether all operators of an operator document are true of a field. -/
def Document.demand (t : Assignment) (field : String) : Document → Bool
  | ⟨fields⟩ => operatorsDemand t field fields

/-- Whether all operators of a list are true of a field. -/
def operatorsDemand (t : Assignment) (field : String) : List (String × Value) → Bool
  | [] => true
  | (key, v) :: rest =>
    (if key = "$not" then !v.demand t field
      else (Relation.ofKey? key).any fun r => t.holds ⟨field, r, v⟩) &&
    operatorsDemand t field rest

end

/-- The truth of a condition document: all of its entries. -/
def Document.truth (t : Assignment) (d : Document) : Bool :=
  d.fields.all fun entry => entry.2.demand t entry.1

/-! ### The translation on predicates -/

/-- The scopes that an atom is placed under. -/
def Atom.scopes (a : Atom) : List Scope :=
  .field a.field :: (a.relation.key?.map Scope.operator).toList

/-- Places the atoms of a predicate into a condition document. -/
def Predicate.place (scopes : List Scope) : Predicate → Document → Except QueryError Document
  | true, d => .ok d
  | atom a, d => d.addCondition (scopes ++ a.scopes) a.constant
  | and p q, d => do q.place scopes (← p.place scopes d)
  | not p, d => p.place (scopes ++ [.operator "$not"]) d

namespace BinaryOp

theorem relation?_exchanged (op : BinaryOp) :
    op.exchanged.relation? = op.relation?.map Relation.converse := by
  cases op <;> rfl

theorem key?_of_relation? {op : BinaryOp} {r : Relation} (h : op.relation? = some r) :
    r.key? = op.conditionOperator? := by
  cases op <;> cases h <;> rfl

theorem relation?_of_isComparison {op : BinaryOp} (h : op.isComparison = true) :
    ∃ r, op.relation? = some r := by
  cases op <;> first | exact ⟨_, rfl⟩ | cases h

end BinaryOp

/-- A translation places the atoms of a predicate, or nothing if there is none. -/
def Places (translate : List Scope → Document → Except QueryError Document) :
    Option Predicate → Prop
  | some p => ∀ scopes d, translate scopes d = p.place scopes d
  | none => ∀ scopes d d', translate scopes d ≠ .ok d'

theorem places_of_error {translate : List Scope → Document → Except QueryError Document}
    {e : QueryError} (h : ∀ scopes d, translate scopes d = .error e) : Places translate none := by
  intro scopes d d' hok
  rw [h] at hok
  cases hok

/-- What is placed for what reads a field and a constant, with the field on the left. -/
def placeSide (x : Operand) (op : BinaryOp) (v : Value) (scopes : List Scope) (d : Document) :
    Except QueryError Document :=
  match x with
  | .field f =>
    d.addCondition (scopes ++ .field f.path :: (op.conditionOperator?.map Scope.operator).toList) v
  | .size f =>
    if op = .equal then d.addCondition (scopes ++ [.field f.path, .operator "$size"]) v
    else .error (.unsupported (.sizeOperation op))

theorem places_side (x : Operand) {op : BinaryOp} {r : Relation} (v : Value)
    (hr : op.relation? = some r) : Places (placeSide x op v) (.atom <$> x.atom? r v) := by
  cases x with
  | field f =>
      intro scopes d
      unfold placeSide Predicate.place Atom.scopes
      rw [BinaryOp.key?_of_relation? hr]
  | size f =>
      -- Of the length of a list only equality can be asked.
      have hiff : op = .equal ↔ r = .equal := by
        cases op <;> cases hr <;> decide
      by_cases hop : op = .equal
      · rw [Operand.atom?, if_pos (hiff.mp hop)]
        intro scopes d
        rw [placeSide, if_pos hop]
        rfl
      · rw [Operand.atom?, if_neg (mt hiff.mpr hop)]
        refine places_of_error (e := .unsupported (.sizeOperation op)) ?_
        intro scopes d
        rw [placeSide, if_neg hop]

/-- A comparison is taken apart into its sides, from which the condition is made. -/
theorem addComparison_eq (scopes : List Scope) (op : BinaryOp) (left right : Expr) (d : Document) :
    addComparison scopes op left right d =
      match left.asOperand?, right.asOperand? with
      | some x, none =>
        match right.asConstant? with
        | some v => placeSide x op v scopes d
        | none => .error (.invalid .fieldWithoutConstant)
      | none, some x =>
        match left.asConstant? with
        | some v => placeSide x op.exchanged v scopes d
        | none => .error (.invalid .fieldWithoutConstant)
      | some _, some _ => .error (.invalid .twoFields)
      | none, none => .error (.invalid .withoutField) := by
  unfold addComparison comparisonSides
  cases left.asOperand? with
  | none =>
      cases right.asOperand? with
      | none => rfl
      | some x =>
          simp only [Except.ok_bind]
          cases left.asConstant? with
          | none => rfl
          | some v => cases x <;> rfl
  | some x =>
      cases right.asOperand? with
      | none =>
          simp only [Except.ok_bind]
          cases right.asConstant? with
          | none => rfl
          | some v => cases x <;> rfl
      | some y => rfl

theorem places_comparison {op : BinaryOp} (left right : Expr) (hop : op.isComparison = true) :
    Places (addComparison · op left right ·) (.atom <$> comparisonAtom? op left right) := by
  rcases BinaryOp.relation?_of_isComparison hop with ⟨r, hr⟩
  -- With the operand on the right the relation is the converse one.
  have hr' : op.exchanged.relation? = some r.converse := by
    rw [BinaryOp.relation?_exchanged, hr, Option.map_some]
  unfold comparisonAtom?
  simp only [addComparison_eq, hr, Option.bind_eq_bind, Option.bind_some]
  cases left.asOperand? with
  | none =>
      cases right.asOperand? with
      | none => exact places_of_error fun _ _ => rfl
      | some x =>
          cases left.asConstant? with
          | none => exact places_of_error fun _ _ => rfl
          | some v => exact places_side x v hr'
  | some x =>
      cases right.asOperand? with
      | none =>
          cases right.asConstant? with
          | none => exact places_of_error fun _ _ => rfl
          | some v => exact places_side x v hr
      | some y => exact places_of_error fun _ _ => rfl

/-- The field and the pattern of a text test are those of its atom. -/
theorem callPattern_eq (method : Method) (receiver : Option Expr) (arguments : List Expr) :
    (∃ f pattern, callPattern method receiver arguments = .ok (f, pattern) ∧
      callAtom? method receiver arguments = some ⟨f.path, .equal, .pattern ⟨pattern, ""⟩⟩) ∨
    (∃ e, callPattern method receiver arguments = .error e ∧
      callAtom? method receiver arguments = none) := by
  unfold callPattern callAtom? Script.calledField conditionText
  cases method with
  | startsWith | endsWith | contains =>
      cases receiver.bind Expr.asField? with
      | none => exact .inr ⟨_, rfl, rfl⟩
      | some f =>
          cases arguments[0]?.bind Expr.asText? with
          | none => exact .inr ⟨_, rfl, rfl⟩
          | some text => exact .inl ⟨_, _, rfl, rfl⟩
  | isMatch =>
      cases receiver with
      | some e => exact .inr ⟨_, rfl, rfl⟩
      | none =>
          cases arguments[0]?.bind Expr.asField? with
          | none => exact .inr ⟨_, rfl, rfl⟩
          | some f =>
              cases arguments[1]?.bind Expr.asText? with
              | none => exact .inr ⟨_, rfl, rfl⟩
              | some pattern => exact .inl ⟨_, _, rfl, rfl⟩
  | count | other name => exact .inr ⟨_, rfl, rfl⟩

theorem places_call (method : Method) (receiver : Option Expr) (arguments : List Expr) :
    Places (addCall · method receiver arguments ·)
      (.atom <$> callAtom? method receiver arguments) := by
  unfold addCall
  rcases callPattern_eq method receiver arguments with
    ⟨f, pattern, hcall, hatom⟩ | ⟨e, hcall, hatom⟩
  · rw [hcall, hatom]
    intro scopes d
    rfl
  · rw [hcall, hatom]
    exact places_of_error fun _ _ => rfl

theorem comparisonAtom?_eq_none {op : BinaryOp} (left right : Expr) (h : op.relation? = none) :
    comparisonAtom? op left right = none := by
  unfold comparisonAtom?
  rw [h]
  split <;> rfl

/-- Of two expressions the second one is placed into what the first one leaves. -/
theorem places_and {l r : Expr} (hl : Places (l.addConditions · ·) l.predicate?)
    (hr : Places (r.addConditions · ·) r.predicate?) :
    Places (fun scopes d => do r.addConditions scopes (← l.addConditions scopes d))
      (do return .and (← l.predicate?) (← r.predicate?)) := by
  cases hp : l.predicate? with
  | none =>
      intro scopes d d' hok
      rcases Except.bind_eq_ok.mp hok with ⟨d₁, hd₁, _⟩
      rw [hp] at hl
      exact hl scopes d d₁ hd₁
  | some p =>
      cases hq : r.predicate? with
      | none =>
          intro scopes d d' hok
          rcases Except.bind_eq_ok.mp hok with ⟨d₁, _, hd'⟩
          rw [hq] at hr
          exact hr scopes d₁ d' hd'
      | some q =>
          rw [hp] at hl
          rw [hq] at hr
          intro scopes d
          -- The right side is placed the same way into whatever document it is given.
          have hright : (fun d => r.addConditions scopes d) = q.place scopes :=
            funext fun d => hr scopes d
          exact congrArg₂ (· >>= ·) (hl scopes d) hright

/-- A negated expression is placed in a scope that is deeper by one operator. -/
theorem places_not {e : Expr} (h : Places (e.addConditions · ·) e.predicate?) :
    Places (fun scopes d => e.addConditions (scopes ++ [.operator "$not"]) d)
      (.not <$> e.predicate?) := by
  cases hp : e.predicate? with
  | none =>
      rw [hp] at h
      exact fun scopes => h (scopes ++ [.operator "$not"])
  | some p =>
      rw [hp] at h
      exact fun scopes => h (scopes ++ [.operator "$not"])

theorem places_binary {op : BinaryOp} (left right : Expr) :
    Places (fun scopes d =>
        if op.isComparison then addComparison scopes op left right d
        else .error (.unsupported (.operation op)))
      (.atom <$> comparisonAtom? op left right) := by
  by_cases hop : op.isComparison = true
  · simp only [if_pos hop]
    exact places_comparison left right hop
  · have hnone : op.relation? = none := by
      cases op <;> first | rfl | exact absurd rfl hop
    simp only [if_neg hop, comparisonAtom?_eq_none left right hnone]
    exact places_of_error fun _ _ => rfl

/-- The translation places the atoms of the predicate, and accepts no other expression. -/
theorem Expr.places (e : Expr) : Places (e.addConditions · ·) e.predicate? := by
  fun_induction Expr.predicate? e with
  | case1 op l r h ihl ihr =>
      simp only [addConditions, if_pos h]
      exact places_and ihl ihr
  | case2 op l r h =>
      simp only [addConditions, if_neg h]
      exact places_binary l r
  | case3 e ih =>
      simp only [addConditions]
      exact places_not ih
  | case4 method receiver arguments =>
      simp only [addConditions]
      exact places_call method receiver arguments
  | case5 => exact fun _ _ => rfl
  | case6 e hbinary hnot hcall htrue =>
      cases e with
      | binary op l r => exact (hbinary op l r rfl).elim
      | call method receiver arguments => exact (hcall method receiver arguments rfl).elim
      | unary op e =>
          cases op with
          | not => exact (hnot e rfl).elim
          | negate => exact places_of_error fun _ _ => rfl
      | constant v =>
          cases v with
          | boolean b =>
              cases b with
              | true => exact (htrue rfl).elim
              | false => exact places_of_error fun _ _ => rfl
          | _ => exact places_of_error fun _ _ => rfl
      | _ => exact places_of_error fun _ _ => rfl

end DocumentMapper
