import DocumentMapper.Proofs.Query.Alike

/-!
# Filters that are looked at

A text test takes one argument, or two if it has no receiver, and the translation looks at
no more of them. What else stands among the arguments goes through folding, binding and
hoisting all the same. An expression is tidy if no level stands there but within
subqueries. A tidy expression that stands for a predicate has no levels at all: everything
in it has been looked at.

## Main definitions

* `Method.surplus`: The arguments that are not looked at.
* `Expr.Tidy`: There are no levels among them.

## Theorems

* `Tidy.fold`, `Tidy.bind`: The steps of a translation.
* `Alike.tidy`: Expressions that are alike are tidy together.
* `Tidy.levelFree`: A tidy expression that stands for a predicate has no levels.
-/

namespace DocumentMapper

/-- The arguments of a text test that the translation does not look at. -/
def Method.surplus (method : Method) (arguments : List Expr) : List Expr :=
  match method with
  | startsWith | endsWith | contains => arguments.drop 1
  | isMatch => arguments.drop 2
  | _ => []

/-- An expression in which text tests have no levels among the arguments that are not looked
    at, except within subqueries. Levels may stand anywhere else. -/
def Expr.Tidy (e : Expr) : Prop :=
  e.Limited True fun method arguments => ∀ x ∈ method.surplus arguments, x.LevelFree

/-- What becomes of the arguments becomes of those that are not looked at. -/
theorem Method.surplus_related {R : Expr → Expr → Prop} {arguments arguments' : List Expr}
    (method : Method) (h : List.Forall₂ R arguments arguments') :
    List.Forall₂ R (method.surplus arguments) (method.surplus arguments') := by
  cases method with
  | startsWith | endsWith | contains => exact List.forall₂_drop 1 h
  | isMatch => exact List.forall₂_drop 2 h
  | count | other name => exact .nil

namespace Expr

/-! ### Folding and binding -/

theorem Tidy.fold {e r : Expr} (h : e.Tidy) (hr : e.FoldsTo r) : r.Tidy := by
  refine Limited.fold (fun {method _ _} harguments surplus => ?_) h hr
  exact forall_of_forall₂ (method.surplus_related harguments) fun x hx _ => (surplus x hx).fold

theorem Tidy.bind {store : Option Store} {rows : Option Rows} {e r : Expr} (h : e.Tidy)
    (hr : e.BindsTo store rows r) : r.Tidy := by
  refine Limited.bind (fun {method _ _} harguments surplus => ?_) h hr
  exact forall_of_forall₂ (method.surplus_related harguments) fun x hx _ => (surplus x hx).bind

/-! ### Expressions that are alike -/

section

variable {free levels : Prop} {fits : Method → List Expr → Prop}

/-- Expressions that are alike keep limits that their arguments keep. -/
theorem Alike.limited (hfits : ∀ {R : Expr → Expr → Prop} {method arguments arguments'},
    (∀ e e', R e e' → Alike free e e') → List.Forall₂ R arguments arguments' →
      fits method arguments → fits method arguments')
    {e e' : Expr} (h : Alike free e e') : e.Limited levels fits → e'.Limited levels fits := by
  induction h with
  | constant v => exact fun _ => .constant v
  | parameter names => exact fun _ => .parameter _
  | field label label' path => exact fun _ => .field _
  | rowField path => exact fun _ => .rowField path
  | collection c => exact fun _ => .collection c
  | member operand name ih =>
      intro hlimited
      cases hlimited with
      | member operand => exact .member (ih operand) name
  | unary op operand ih =>
      intro hlimited
      cases hlimited with
      | unary _ operand => exact .unary op (ih operand)
  | binary op left right ihl ihr =>
      intro hlimited
      cases hlimited with
      | binary _ left right => exact .binary op (ihl left) (ihr right)
  -- Exchanging the sides of a comparison leaves no level and no call in a new place.
  | exchanged allowed comparison left right ihl ihr =>
      intro hlimited
      cases hlimited with
      | binary _ left right => exact .binary _ (ihr right) (ihl left)
  | call method parts receives takes ih =>
      intro hlimited
      cases hlimited with
      | call _ hreceives htakes fit =>
          exact .call method (forall_of_rel receives fun e he e' hR => ih e e' hR (hreceives e he))
            (forall_of_forall₂ takes fun e he e' hR => ih e e' hR (htakes e he))
            (hfits parts takes fit)
  | object parts contents ih =>
      intro hlimited
      cases hlimited with
      | object hcontents =>
          exact .object
            (forall_of_namedRelated contents fun m hm e' hR => ih m.2 e' hR (hcontents m hm))
  | aggregate kind distinct parts takes ih =>
      intro hlimited
      cases hlimited with
      | aggregate _ _ htakes =>
          exact .aggregate kind distinct
            (forall_of_rel takes fun e he e' hR => ih e e' hR (htakes e he))
  | select parts clauses _ ih =>
      intro hlimited
      cases hlimited with
      | select allowed => exact .select allowed _
  | projection parts clauses shape _ ih ihshape =>
      intro hlimited
      cases hlimited with
      | projection allowed => exact .projection allowed _ _
  | subquery parts clauses _ ih => exact fun _ => .subquery _

theorem Alike.levelFree {e e' : Expr} (h : Alike free e e') (hfree : e.LevelFree) :
    e'.LevelFree :=
  levelFree_iff_limited.mpr (h.limited (fun _ _ fit => fit) (levelFree_iff_limited.mp hfree))

theorem Alike.tidy {e e' : Expr} (h : Alike free e e') (htidy : e.Tidy) : e'.Tidy := by
  refine h.limited (fun {R method _ _} parts takes surplus => ?_) htidy
  exact forall_of_forall₂ (method.surplus_related takes) fun x hx x' hR =>
    (parts x x' hR).levelFree (surplus x hx)

end

/-! ### What is looked at -/

theorem levelFree_of_asField? {e : Expr} {f : FieldRef} (h : e.asField? = some f) :
    e.LevelFree := by
  cases e with
  | field f => exact .field f
  | _ => cases h

theorem levelFree_of_asConstant? {e : Expr} {v : Value} (h : e.asConstant? = some v) :
    e.LevelFree := by
  cases e with
  | constant v => exact .constant v
  | _ => cases h

theorem levelFree_of_asOperand? {e : Expr} {x : Operand} (h : e.asOperand? = some x) :
    e.LevelFree := by
  unfold asOperand? at h
  split at h
  next f => exact .field f
  next operand name =>
    split at h
    · rcases Option.map_eq_some_iff.mp h with ⟨f, hf, _⟩
      exact (levelFree_of_asField? hf).member name
    · cases h
  next source =>
    rcases Option.map_eq_some_iff.mp h with ⟨f, hf, _⟩
    refine .call .count (by simp) ?_
    intro e he
    rw [List.mem_singleton.mp he]
    exact levelFree_of_asField? hf
  next => cases h

theorem levelFree_of_comparisonAtom? {op : BinaryOp} {l r : Expr} {a : Atom}
    (h : comparisonAtom? op l r = some a) : l.LevelFree ∧ r.LevelFree := by
  unfold comparisonAtom? at h
  split at h
  next x hl hr =>
    rcases Option.bind_eq_some_iff.mp h with ⟨_, _, h⟩
    rcases Option.bind_eq_some_iff.mp h with ⟨v, hv, _⟩
    exact ⟨levelFree_of_asOperand? hl, levelFree_of_asConstant? hv⟩
  next x hl hr =>
    rcases Option.bind_eq_some_iff.mp h with ⟨_, _, h⟩
    rcases Option.bind_eq_some_iff.mp h with ⟨v, hv, _⟩
    exact ⟨levelFree_of_asConstant? hv, levelFree_of_asOperand? hr⟩
  next => cases h

/-- What is looked at of a text test is a field and a text. -/
theorem levelFree_of_callAtom? {method : Method} {receiver : Option Expr} {arguments : List Expr}
    {a : Atom} (h : callAtom? method receiver arguments = some a)
    (hsurplus : ∀ e ∈ method.surplus arguments, e.LevelFree) :
    (Expr.call method receiver arguments).LevelFree := by
  have field : ∀ {x : Option Expr} {f : FieldRef}, x.bind asField? = some f →
      ∀ e ∈ x, e.LevelFree := by
    intro x f hf e he
    rcases Option.bind_eq_some_iff.mp hf with ⟨e', he', hf⟩
    rw [Option.some.inj (he.symm.trans he')]
    exact levelFree_of_asField? hf
  have text : ∀ {x : Option Expr} {s : String}, x.bind asText? = some s →
      ∀ e ∈ x, e.LevelFree := by
    intro x s hs e he
    rcases Option.bind_eq_some_iff.mp hs with ⟨e', he', hs⟩
    rcases Option.bind_eq_some_iff.mp hs with ⟨v, hv, _⟩
    rw [Option.some.inj (he.symm.trans he')]
    exact levelFree_of_asConstant? hv
  -- The receiver is the field and the first argument the text, or the first two arguments are.
  cases method with
  | startsWith | endsWith | contains =>
      rcases Option.bind_eq_some_iff.mp h with ⟨f, hf, h⟩
      rcases Option.bind_eq_some_iff.mp h with ⟨s, hs, _⟩
      refine .call _ (field hf) ?_
      cases arguments with
      | nil => exact List.forall_mem_nil _
      | cons first rest => exact List.forall_mem_cons.mpr ⟨text hs first rfl, hsurplus⟩
  | isMatch =>
      unfold callAtom? at h
      cases receiver with
      | some e => cases h
      | none =>
          rcases Option.bind_eq_some_iff.mp h with ⟨f, hf, h⟩
          rcases Option.bind_eq_some_iff.mp h with ⟨s, hs, _⟩
          refine .call _ ?_ ?_
          · rintro e ⟨⟩
          · cases arguments with
            | nil => exact List.forall_mem_nil _
            | cons first rest =>
                refine List.forall_mem_cons.mpr ⟨field hf first rfl, ?_⟩
                cases rest with
                | nil => exact List.forall_mem_nil _
                | cons second rest =>
                    exact List.forall_mem_cons.mpr ⟨text hs second rfl, hsurplus⟩
  | count | other name => cases h

/-- A tidy expression that stands for a predicate has been looked at as a whole, and so there
    are no levels in it. -/
theorem Tidy.levelFree {e : Expr} (h : e.Tidy) :
    ∀ {p : Predicate}, e.predicate? = some p → e.LevelFree := by
  unfold Tidy at h
  induction h with
  | constant v => exact fun _ => .constant v
  | unary op operand ih =>
      intro p hp
      cases op with
      | not =>
          rw [predicate?] at hp
          rcases Option.map_eq_some_iff.mp hp with ⟨q, hq, _⟩
          exact (ih hq).unary _
      | negate => cases hp
  | @binary l r op left right ihl ihr =>
      intro p hp
      rw [predicate?] at hp
      split at hp
      next =>
        rcases Option.bind_eq_some_iff.mp hp with ⟨pl, hl, hp⟩
        rcases Option.bind_eq_some_iff.mp hp with ⟨pr, hr, _⟩
        exact .binary op (ihl hl) (ihr hr)
      next =>
        rcases Option.map_eq_some_iff.mp hp with ⟨a, ha, _⟩
        have hsides := levelFree_of_comparisonAtom? ha
        exact .binary op hsides.1 hsides.2
  | call method receives takes surplus ihreceives ihtakes =>
      intro p hp
      rw [predicate?] at hp
      rcases Option.map_eq_some_iff.mp hp with ⟨a, ha, _⟩
      exact levelFree_of_callAtom? ha surplus
  | _ => intro p hp; cases hp

end Expr

end DocumentMapper
