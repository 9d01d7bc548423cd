import DocumentMapper.Query.Expr.Basic

/-!
# Induction over expressions

Expressions contain levels and levels contain expressions, and both contain lists of them.
An argument about every expression shows that an expression has a property if everything
that stands directly in it has the property. What stands directly in a level are its
clauses.

## Main definitions

* `Select.Clauses`: A property of every clause of a level.
* `Expr.Parts`: A property of what stands directly in an expression.

## Theorems

* `Expr.induct`: The induction.
-/

namespace DocumentMapper

/-- A property of every clause of a level. -/
structure Select.Clauses (P : Expr → Prop) (s : Select) : Prop where
  source : ∀ e ∈ s.source, P e
  filter : ∀ e ∈ s.filter, P e
  group : ∀ keys ∈ s.group, ∀ e ∈ keys, P e
  fields : ∀ field ∈ s.fields, P field.2
  order : ∀ key ∈ s.order, P key.2
  skip : ∀ e ∈ s.skip, P e
  take : ∀ e ∈ s.take, P e

theorem Select.Clauses.imp {P Q : Expr → Prop} {s : Select} (h : s.Clauses P)
    (hPQ : ∀ e, P e → Q e) : s.Clauses Q where
  source e he := hPQ e (h.source e he)
  filter e he := hPQ e (h.filter e he)
  group keys hkeys e he := hPQ e (h.group keys hkeys e he)
  fields field hfield := hPQ field.2 (h.fields field hfield)
  order key hkey := hPQ key.2 (h.order key hkey)
  skip e he := hPQ e (h.skip e he)
  take e he := hPQ e (h.take e he)

/-- A property of what stands directly in an expression. -/
def Expr.Parts (P : Expr → Prop) : Expr → Prop
  | .member e _ => P e
  | .binary _ l r => P l ∧ P r
  | .unary _ e => P e
  | .call _ receiver arguments => (∀ e ∈ receiver, P e) ∧ ∀ e ∈ arguments, P e
  | .object members => ∀ m ∈ members, P m.2
  | .select s => s.Clauses P
  | .projection s e => s.Clauses P ∧ P e
  | .aggregate _ argument _ => ∀ e ∈ argument, P e
  | .subquery s => s.Clauses P
  | _ => True

section

variable {P : Expr → Prop}

mutual

/-- An expression has a property that goes over from what stands in an expression to the
    expression itself. -/
theorem Expr.induct (step : ∀ e : Expr, e.Parts P → P e) : ∀ e : Expr, P e
  | .constant v => step (.constant v) trivial
  | .parameter name => step (.parameter name) trivial
  | .field f => step (.field f) trivial
  | .rowField path => step (.rowField path) trivial
  | .collection c => step (.collection c) trivial
  | .member e name => step (.member e name) (e.induct step)
  | .binary op l r => step (.binary op l r) ⟨l.induct step, r.induct step⟩
  | .unary op e => step (.unary op e) (e.induct step)
  | .call method receiver arguments =>
    step (.call method receiver arguments) ⟨option_induct step receiver, each_induct step arguments⟩
  | .object members => step (.object members) (named_induct step members)
  | .select s => step (.select s) (s.clauses_induct step)
  | .projection s e => step (.projection s e) ⟨s.clauses_induct step, e.induct step⟩
  | .aggregate kind argument distinct =>
    step (.aggregate kind argument distinct) (option_induct step argument)
  | .subquery s => step (.subquery s) (s.clauses_induct step)

/-- All clauses of a level have such a property. -/
theorem Select.clauses_induct (step : ∀ e : Expr, e.Parts P → P e) : ∀ s : Select, s.Clauses P
  | ⟨_, fields, source, filter, order, group, _, skip, take⟩ =>
    ⟨option_induct step source, option_induct step filter, group_induct step group,
      named_induct step fields, order_induct step order, option_induct step skip,
      option_induct step take⟩

-- The recursion on expressions goes through options and lists one constructor at a time.
theorem option_induct (step : ∀ e : Expr, e.Parts P → P e) : ∀ x : Option Expr, ∀ e ∈ x, P e
  | none, _, h => nomatch h
  | some e, _, h => Option.some.inj h ▸ e.induct step

theorem each_induct (step : ∀ e : Expr, e.Parts P → P e) : ∀ es : List Expr, ∀ e ∈ es, P e
  | [] => List.forall_mem_nil _
  | e :: es => List.forall_mem_cons.mpr ⟨e.induct step, each_induct step es⟩

theorem named_induct (step : ∀ e : Expr, e.Parts P → P e) :
    ∀ ms : List (String × Expr), ∀ m ∈ ms, P m.2
  | [] => List.forall_mem_nil _
  | (_, e) :: ms => List.forall_mem_cons.mpr ⟨e.induct step, named_induct step ms⟩

theorem order_induct (step : ∀ e : Expr, e.Parts P → P e) :
    ∀ keys : List (Direction × Expr), ∀ key ∈ keys, P key.2
  | [] => List.forall_mem_nil _
  | (_, e) :: keys => List.forall_mem_cons.mpr ⟨e.induct step, order_induct step keys⟩

theorem group_induct (step : ∀ e : Expr, e.Parts P → P e) :
    ∀ x : Option (List Expr), ∀ keys ∈ x, ∀ e ∈ keys, P e
  | none, _, h => nomatch h
  | some keys, _, h => Option.some.inj h ▸ each_induct step keys

end

end

end DocumentMapper
