import DocumentMapper.Proofs.Data.List
import DocumentMapper.Proofs.Query.Within

/-!
# Expressions with new parts

An expression is rebuilt from another one if both have the same form and their parts are
related one by one. What a form makes of its parts is shown once here for all relations of
parts: above all, that parts with the same outcomes give the same outcome.

## Main definitions

* `Select.Related`: Levels whose clauses are related.
* `Expr.Rebuilt`: Expressions of the same form whose parts are related.
* `Expr.Closed`: Expressions made of constants and operators alone.

## Theorems

* `Rebuilt.parts`, `Rebuilt.same`, `exists_rebuilt`: The parts of what is rebuilt.
* `Rebuilt.evaluate_eq`: Parts with the same outcomes give the same outcome.
* `Closed.evaluate_eq`: What is closed does not look at the row.
-/

namespace DocumentMapper

/-! ### Lists of parts -/

section

variable {α β : Type} {R : α → β → Prop}

theorem forall₂_toList {x : Option α} {y : Option β} (h : Option.Rel R x y) :
    List.Forall₂ R x.toList y.toList := by
  cases h with
  | none => exact .nil
  | some hab => exact .cons hab .nil

theorem forall₂_getD {x : Option (List α)} {y : Option (List β)}
    (h : Option.Rel (List.Forall₂ R) x y) : List.Forall₂ R (x.getD []) (y.getD []) := by
  cases h with
  | none => exact .nil
  | some hab => exact hab

theorem forall₂_map_snd {κ : Type} {ms : List (κ × α)} {ms' : List (κ × β)}
    (h : NamedRelated R ms ms') : List.Forall₂ R (ms.map Prod.snd) (ms'.map Prod.snd) := by
  rw [List.forall₂_map_left_iff, List.forall₂_map_right_iff]
  exact h.imp fun _ _ hm => hm.2

theorem option_rel_eq {x y : Option α} (h : Option.Rel Eq x y) : x = y := by
  cases h with
  | none => rfl
  | some h => rw [h]

theorem namedRelated_eq {κ : Type} {ms ms' : List (κ × α)} (h : NamedRelated Eq ms ms') :
    ms = ms' := by
  rw [← List.forall₂_eq_eq_eq]
  exact h.imp fun _ _ hm => Prod.ext hm.1 hm.2

theorem exists_forall₂ {as : List α} (h : ∀ a ∈ as, ∃ b, R a b) : ∃ bs, List.Forall₂ R as bs := by
  induction as with
  | nil => exact ⟨[], .nil⟩
  | cons a as ih =>
      rcases h a List.mem_cons_self with ⟨b, hb⟩
      rcases ih fun a ha => h a (List.mem_cons_of_mem _ ha) with ⟨bs, hbs⟩
      exact ⟨b :: bs, .cons hb hbs⟩

theorem exists_rel {x : Option α} (h : ∀ a ∈ x, ∃ b, R a b) : ∃ y, Option.Rel R x y := by
  cases x with
  | none => exact ⟨none, .none⟩
  | some a =>
      rcases h a rfl with ⟨b, hb⟩
      exact ⟨some b, .some hb⟩

theorem exists_namedRelated {κ : Type} {ms : List (κ × α)} (h : ∀ m ∈ ms, ∃ b, R m.2 b) :
    ∃ ms', NamedRelated R ms ms' := by
  refine exists_forall₂ fun m hm => ?_
  rcases h m hm with ⟨b, hb⟩
  exact ⟨(m.1, b), rfl, hb⟩

end

/-! ### Levels -/

/-- Levels whose clauses are related. -/
structure Select.Related (R : Expr → Expr → Prop) (s s' : Select) : Prop where
  label : s.label = s'.label
  fields : NamedRelated R s.fields s'.fields
  source : Option.Rel R s.source s'.source
  filter : Option.Rel R s.filter s'.filter
  order : NamedRelated R s.order s'.order
  group : Option.Rel (List.Forall₂ R) s.group s'.group
  distinct : s.distinct = s'.distinct
  skip : Option.Rel R s.skip s'.skip
  take : Option.Rel R s.take s'.take

namespace Select

variable {R S : Expr → Expr → Prop} {s s' : Select}

/-- Clauses that a level has none of are not replaced. -/
theorem Related.fields_eq_nil (h : Select.Related R s s') (hs : s.fields = []) :
    s'.fields = [] := by
  have hfields := h.fields
  rw [hs] at hfields
  exact List.forall₂_nil_left_iff.mp hfields

theorem Related.imp_of_clauses (h : Select.Related R s s')
    (himp : s.Clauses fun p => ∀ q, R p q → S p q) : Select.Related S s s' where
  label := h.label
  fields := forall₂_imp_of_mem h.fields fun m hm m' hR =>
    ⟨hR.1, himp.fields m hm m'.2 hR.2⟩
  source := rel_imp_of_mem h.source himp.source
  filter := rel_imp_of_mem h.filter himp.filter
  order := forall₂_imp_of_mem h.order fun m hm m' hR =>
    ⟨hR.1, himp.order m hm m'.2 hR.2⟩
  group := rel_imp_of_mem h.group fun keys hkeys _ hR =>
    forall₂_imp_of_mem hR (himp.group keys hkeys)
  distinct := h.distinct
  skip := rel_imp_of_mem h.skip himp.skip
  take := rel_imp_of_mem h.take himp.take

theorem Related.clauses (h : Select.Related R s s') : List.Forall₂ R s.clauses s'.clauses := by
  unfold Select.clauses
  refine List.rel_append (forall₂_toList h.source) ?_
  refine List.rel_append (forall₂_toList h.filter) ?_
  refine List.rel_append (forall₂_getD h.group) ?_
  refine List.rel_append (forall₂_map_snd h.fields) ?_
  refine List.rel_append (forall₂_map_snd h.order) ?_
  exact List.rel_append (forall₂_toList h.skip) (forall₂_toList h.take)

theorem exists_related (h : s.Clauses fun p => ∃ q, R p q) : ∃ s', Select.Related R s s' := by
  rcases exists_rel h.source with ⟨source, hsource⟩
  rcases exists_rel h.filter with ⟨filter, hfilter⟩
  rcases exists_rel fun keys hkeys => exists_forall₂ (h.group keys hkeys) with ⟨group, hgroup⟩
  rcases exists_namedRelated h.fields with ⟨fields, hfields⟩
  rcases exists_namedRelated h.order with ⟨order, horder⟩
  rcases exists_rel h.skip with ⟨skip, hskip⟩
  rcases exists_rel h.take with ⟨take, htake⟩
  exact ⟨⟨s.label, fields, source, filter, order, group, s.distinct, skip, take⟩,
    rfl, hfields, hsource, hfilter, horder, hgroup, rfl, hskip, htake⟩

/-- Levels with the same clauses are the same. -/
theorem Related.eq (h : Select.Related Eq s s') : s = s' := by
  rcases h with ⟨label, fields, source, filter, order, group, distinct, skip, take⟩
  rw [List.forall₂_eq_eq_eq] at group
  rcases s with ⟨⟩
  rcases s' with ⟨⟩
  rw [Select.mk.injEq]
  exact ⟨label, namedRelated_eq fields, option_rel_eq source, option_rel_eq filter,
    namedRelated_eq order, option_rel_eq group, distinct, option_rel_eq skip, option_rel_eq take⟩

end Select

/-! ### Any form -/

/-- Expressions of the same form whose parts are related. -/
inductive Expr.Rebuilt (R : Expr → Expr → Prop) : Expr → Expr → Prop
  | constant (v : Value) : Rebuilt R (.constant v) (.constant v)
  | parameter (name : String) : Rebuilt R (.parameter name) (.parameter name)
  | field (f : FieldRef) : Rebuilt R (.field f) (.field f)
  | rowField (path : String) : Rebuilt R (.rowField path) (.rowField path)
  | collection (c : Collection) : Rebuilt R (.collection c) (.collection c)
  | member {e e' : Expr} (operand : R e e') (name : String) :
    Rebuilt R (.member e name) (.member e' name)
  | unary {e e' : Expr} (op : UnaryOp) (operand : R e e') :
    Rebuilt R (.unary op e) (.unary op e')
  | binary {l l' r r' : Expr} (op : BinaryOp) (left : R l l') (right : R r r') :
    Rebuilt R (.binary op l r) (.binary op l' r')
  | call {receiver receiver' : Option Expr} {arguments arguments' : List Expr} (method : Method)
    (receives : Option.Rel R receiver receiver') (takes : List.Forall₂ R arguments arguments') :
    Rebuilt R (.call method receiver arguments) (.call method receiver' arguments')
  | object {members members' : List (String × Expr)} (contents : NamedRelated R members members') :
    Rebuilt R (.object members) (.object members')
  | aggregate {argument argument' : Option Expr} (kind : AggregateKind) (distinct : Bool)
    (takes : Option.Rel R argument argument') :
    Rebuilt R (.aggregate kind argument distinct) (.aggregate kind argument' distinct)
  | select {s s' : Select} (clauses : Select.Related R s s') : Rebuilt R (.select s) (.select s')
  | projection {s s' : Select} {e e' : Expr} (clauses : Select.Related R s s') (shape : R e e') :
    Rebuilt R (.projection s e) (.projection s' e')
  | subquery {s s' : Select} (clauses : Select.Related R s s') :
    Rebuilt R (.subquery s) (.subquery s')

namespace Expr

variable {R S : Expr → Expr → Prop} {e e' : Expr}

namespace Rebuilt

theorem imp_of_parts (h : Rebuilt R e e') (himp : e.Parts fun p => ∀ q, R p q → S p q) :
    Rebuilt S e e' := by
  cases h with
  | constant v => exact .constant v
  | parameter name => exact .parameter name
  | field f => exact .field f
  | rowField path => exact .rowField path
  | collection c => exact .collection c
  | member operand name => exact .member (himp _ operand) name
  | unary op operand => exact .unary op (himp _ operand)
  | binary op left right => exact .binary op (himp.1 _ left) (himp.2 _ right)
  | call method receives takes =>
      exact .call method (rel_imp_of_mem receives himp.1) (forall₂_imp_of_mem takes himp.2)
  | object contents =>
      exact .object (forall₂_imp_of_mem contents fun m hm m' hR =>
        ⟨hR.1, himp m hm m'.2 hR.2⟩)
  | aggregate kind distinct takes => exact .aggregate kind distinct (rel_imp_of_mem takes himp)
  | select clauses => exact .select (clauses.imp_of_clauses himp)
  | projection clauses shape =>
      exact .projection (clauses.imp_of_clauses himp.1) (himp.2 _ shape)
  | subquery clauses => exact .subquery (clauses.imp_of_clauses himp)

/-- The parts are related one by one. -/
theorem parts (h : Rebuilt R e e') : List.Forall₂ R e.parts e'.parts := by
  cases h with
  | constant v | parameter name | field f | rowField path | collection c => exact .nil
  | member operand name | unary op operand => exact .cons operand .nil
  | binary op left right => exact .cons left (.cons right .nil)
  | call method receives takes => exact List.rel_append (forall₂_toList receives) takes
  | object contents => exact forall₂_map_snd contents
  | aggregate kind distinct takes => exact forall₂_toList takes
  | select clauses | subquery clauses => exact clauses.clauses
  | projection clauses shape => exact List.rel_append clauses.clauses (.cons shape .nil)

theorem imp (h : Rebuilt R e e') (himp : ∀ p q, R p q → S p q) : Rebuilt S e e' :=
  h.imp_of_parts (parts_iff.mpr fun p _ => himp p)

theorem isOperator_eq (h : Rebuilt R e e') : e.isOperator = e'.isOperator := by
  cases h <;> rfl

theorem isQuery_eq (h : Rebuilt R e e') : e.isQuery = e'.isQuery := by
  cases h <;> rfl

theorem isMember_eq (h : Rebuilt R e e') : e.isMember = e'.isMember := by
  cases h <;> rfl

/-- What an operator is applied to is related one by one. -/
theorem operands (h : Rebuilt R e e') (hoperator : e.isOperator = true) :
    List.Forall₂ R e.operands e'.operands := by
  have hoperator' := h.isOperator_eq ▸ hoperator
  rw [← parts_of_isOperator hoperator, ← parts_of_isOperator hoperator']
  exact h.parts

/-- What is rebuilt from the same parts is the same. -/
theorem eq (h : Rebuilt Eq e e') : e = e' := by
  cases h with
  | constant v | parameter name | field f | rowField path | collection c => rfl
  | member operand name | unary op operand => rw [operand]
  | binary op left right => rw [left, right]
  | call method receives takes =>
      rw [List.forall₂_eq_eq_eq] at takes
      rw [option_rel_eq receives, takes]
  | object contents => rw [namedRelated_eq contents]
  | aggregate kind distinct takes => rw [option_rel_eq takes]
  | select clauses | subquery clauses => rw [clauses.eq]
  | projection clauses shape => rw [clauses.eq, shape]

end Rebuilt

/-- An expression can be rebuilt if there is something in the place of each part. -/
theorem exists_rebuilt (h : e.Parts fun p => ∃ q, R p q) : ∃ e', Rebuilt R e e' := by
  cases e with
  | constant v => exact ⟨_, .constant v⟩
  | parameter name => exact ⟨_, .parameter name⟩
  | field f => exact ⟨_, .field f⟩
  | rowField path => exact ⟨_, .rowField path⟩
  | collection c => exact ⟨_, .collection c⟩
  | member e name =>
      rcases h with ⟨q, hq⟩
      exact ⟨_, .member hq name⟩
  | unary op e =>
      rcases h with ⟨q, hq⟩
      exact ⟨_, .unary op hq⟩
  | binary op l r =>
      rcases h with ⟨⟨l', hl⟩, r', hr⟩
      exact ⟨_, .binary op hl hr⟩
  | call method receiver arguments =>
      rcases exists_rel h.1 with ⟨receiver', hreceiver⟩
      rcases exists_forall₂ h.2 with ⟨arguments', harguments⟩
      exact ⟨_, .call method hreceiver harguments⟩
  | object members =>
      rcases exists_namedRelated h with ⟨members', hmembers⟩
      exact ⟨_, .object hmembers⟩
  | aggregate kind argument distinct =>
      rcases exists_rel h with ⟨argument', hargument⟩
      exact ⟨_, .aggregate kind distinct hargument⟩
  | select s =>
      rcases Select.exists_related h with ⟨s', hs⟩
      exact ⟨_, .select hs⟩
  | projection s e =>
      rcases Select.exists_related h.1 with ⟨s', hs⟩
      rcases h.2 with ⟨e', he⟩
      exact ⟨_, .projection hs he⟩
  | subquery s =>
      rcases Select.exists_related h with ⟨s', hs⟩
      exact ⟨_, .subquery hs⟩

/-- An expression is rebuilt from itself if its parts are related to themselves. -/
theorem Rebuilt.same (h : e.Parts fun p => R p p) : Rebuilt R e e := by
  have hparts : e.Parts fun p => ∃ q, p = q ∧ R p q := h.imp fun p hp => ⟨p, rfl, hp⟩
  rcases exists_rebuilt hparts with ⟨e', hrebuilt⟩
  have hforget (p : Expr) : ∀ q, p = q ∧ R p q → p = q := fun _ hq => hq.1
  have hsame : e = e' := (hrebuilt.imp_of_parts (h.imp fun p _ => hforget p)).eq
  subst hsame
  exact hrebuilt.imp_of_parts (h.imp fun _ _ _ hq => hq.2)

/-! ### Values -/

/-- The forms that have their value from the row. -/
def isFromRow : Expr → Bool
  | parameter _ => true
  | field _ => true
  | rowField _ => true
  | _ => false

section

variable {row row' : Option Document}

/-- Whether an expression at one row has the outcome of another one at another row. -/
abbrev SameOutcome (row row' : Option Document) (e e' : Expr) : Prop :=
  e.evaluate row = e'.evaluate row'

theorem evaluateReceiver_eq {x x' : Option Expr} (h : Option.Rel (SameOutcome row row') x x') :
    evaluateReceiver row x = evaluateReceiver row' x' := by
  cases h with
  | none => rfl
  | some h => rw [evaluateReceiver, evaluateReceiver, h]

theorem evaluateEach_eq {es es' : List Expr} (h : List.Forall₂ (SameOutcome row row') es es') :
    evaluateEach row es = evaluateEach row' es' := by
  induction h with
  | nil => rw [evaluateEach, evaluateEach]
  | cons hhead _ ih => rw [evaluateEach, evaluateEach, hhead, ih]

theorem evaluateMembers_eq {ms ms' : List (String × Expr)}
    (h : NamedRelated (SameOutcome row row') ms ms') :
    evaluateMembers row ms = evaluateMembers row' ms' := by
  induction h with
  | nil => rw [evaluateMembers, evaluateMembers]
  | @cons m m' ms ms' hhead _ ih =>
      rcases m with ⟨name, e⟩
      rcases m' with ⟨name', e'⟩
      rcases hhead with ⟨rfl, hhead⟩
      rw [evaluateMembers, evaluateMembers, hhead, ih]

/-- Parts with the same outcomes give the same outcome, at the same row or where the row is
    not looked at. -/
theorem Rebuilt.evaluate_eq (h : Rebuilt (SameOutcome row row') e e')
    (hrow : e.isFromRow = true → row = row') : e.evaluate row = e'.evaluate row' := by
  cases h with
  | constant v | collection c => rw [evaluate, evaluate]
  | parameter name | field f | rowField path => rw [hrow rfl]
  | member operand name | unary op operand => rw [evaluate, evaluate, operand]
  | binary op left right => cases op <;> simp only [evaluate, left, right]
  | call method receives takes =>
      rw [evaluate, evaluate, evaluateReceiver_eq receives, evaluateEach_eq takes]
  | object contents => rw [evaluate, evaluate, evaluateMembers_eq contents]
  | aggregate kind distinct takes | select clauses | projection clauses shape | subquery clauses =>
      rw [evaluate, evaluate]
      rfl

end

/-- An expression that is made of constants and operators alone. -/
inductive Closed : Expr → Prop
  | constant (v : Value) : Closed (.constant v)
  | operator {e : Expr} (isOperator : e.isOperator = true)
    (operands : ∀ o ∈ e.operands, Closed o) : Closed e

theorem isFromRow_of_isOperator (h : e.isOperator = true) : e.isFromRow = false := by
  cases e with
  | parameter name | field f | rowField path => cases h
  | _ => rfl

/-- What is closed has the same outcome at all rows and without a row. -/
theorem Closed.evaluate_eq (h : e.Closed) (row row' : Option Document) :
    e.evaluate row = e.evaluate row' := by
  induction h with
  | constant v => rw [evaluate, evaluate]
  | @operator e isOperator operands ih =>
      rw [← parts_of_isOperator isOperator] at ih
      refine (Rebuilt.same (parts_iff.mpr ih)).evaluate_eq fun hrow => ?_
      rw [isFromRow_of_isOperator isOperator] at hrow
      cases hrow

theorem closed_of_isConstant (h : e.isConstant = true) : e.Closed := by
  cases e with
  | constant v => exact .constant v
  | _ => cases h

/-- An operator on constants does not look at the row. -/
theorem evaluate_of_isFoldable (h : e.isFoldable = true) (row : Option Document) :
    e.evaluate row = e.evaluate none := by
  rcases isFoldable_iff.mp h with ⟨hoperator, hoperands⟩
  have hclosed : e.Closed := .operator hoperator fun o ho => closed_of_isConstant (hoperands o ho)
  exact hclosed.evaluate_eq row none

end Expr

end DocumentMapper
