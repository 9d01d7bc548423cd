import DocumentMapper.Proofs.Data.Except
import DocumentMapper.Proofs.Query.Chain
import DocumentMapper.Proofs.Query.Traversal

/-!
# Folding and binding, clause by clause

If folding or binding succeeds on a level then it does on each of its expressions, and the
result is a level that is related to the first one clause by clause (`Select.Related`). In
the same way an expression is rebuilt from what the step makes of its parts, and then an
operator on constants gives way to its value when it is folded. How many operators folding
has replaced on its way plays no part in what it makes of an expression.

## Main definitions

* `Expr.FoldsTo`, `Expr.BindsTo`: What a step makes of an expression.

## Theorems

* `Select.FoldsTo.related`, `Select.BindsTo.related`: One level.
* `FoldsTo.rebuilt`, `BindsTo.rebuilt`: One expression.
* `foldsTo_select`, `bindsTo_select` and so on: Forms with levels.
* `bind_form`, `bindsTo_member`: Members, which are bound as chains or through operands.
-/

namespace DocumentMapper

/-! ### Folding -/

namespace Folding

variable {α β : Type} {n m : Nat}

theorem bind_eq_ok {x : Folding α} {f : α → Folding β} {b : β} :
    (x >>= f).run n = .ok (b, m) ↔
      ∃ a k, x.run n = .ok (a, k) ∧ (f a).run k = .ok (b, m) := by
  rw [StateT.run_bind, Except.bind_eq_ok]
  constructor
  · rintro ⟨⟨a, k⟩, hx, hf⟩
    exact ⟨a, k, hx, hf⟩
  · rintro ⟨a, k, hx, hf⟩
    exact ⟨(a, k), hx, hf⟩

theorem map_eq_ok {x : Folding α} {f : α → β} {b : β} :
    (f <$> x).run n = .ok (b, m) ↔ ∃ a, x.run n = .ok (a, m) ∧ f a = b := by
  rw [StateT.run_map, Except.map_eq_ok]
  constructor
  · rintro ⟨⟨a, k⟩, hx, hf⟩
    rcases Prod.mk.inj hf with ⟨hb, rfl⟩
    exact ⟨a, hx, hb⟩
  · rintro ⟨a, hx, hf⟩
    exact ⟨(a, m), hx, congrArg (·, m) hf⟩

theorem pure_eq_ok {a b : α} : (pure a : Folding α).run n = .ok (b, m) ↔ a = b ∧ n = m := by
  rw [StateT.run_pure]
  constructor
  · intro h
    exact Prod.mk.inj (Except.ok.inj h)
  · rintro ⟨rfl, rfl⟩
    rfl

end Folding

/-- What folding makes of an expression, wherever its count begins. -/
def Expr.FoldsTo (e e' : Expr) : Prop :=
  ∃ n m, e.fold.run n = .ok (e', m)

/-- What folding makes of a level. -/
def Select.FoldsTo (s s' : Select) : Prop :=
  ∃ n m, s.fold.run n = .ok (s', m)

/-- What becomes of an operator whose operands are folded. -/
def Expr.SettlesTo (e e' : Expr) : Prop :=
  (e.isFoldable = false ∧ e' = e) ∨
    ∃ v, e.isFoldable = true ∧ e.evaluate none = .ok v ∧ e' = .constant v

theorem settle_eq_ok {e e' : Expr} {n m : Nat} (h : e.settle.run n = .ok (e', m)) :
    e.SettlesTo e' := by
  unfold Expr.settle at h
  by_cases hfoldable : e.isFoldable = true
  · rw [if_pos hfoldable] at h
    rcases Folding.bind_eq_ok.mp h with ⟨v, k, hv, h⟩
    rcases Folding.bind_eq_ok.mp h with ⟨_, l, _, h⟩
    -- Evaluation does not count.
    have hvalue : e.evaluate none = .ok v := by
      cases heval : e.evaluate none with
      | error err =>
          rw [heval] at hv
          cases hv
      | ok w =>
          rw [heval] at hv
          cases hv
          rfl
    exact .inr ⟨v, hfoldable, hvalue, (Folding.pure_eq_ok.mp h).1.symm⟩
  · rw [if_neg hfoldable] at h
    exact .inl ⟨Bool.eq_false_iff.mpr hfoldable, (Folding.pure_eq_ok.mp h).1.symm⟩

/-- What a run of folding gives, wherever its count begins. -/
def Folding.results : Results Folding where
  gives x a := ∃ n m, x.run n = .ok (a, m)
  pure_iff := by
    intro α a b
    constructor
    · rintro ⟨n, m, h⟩
      exact (pure_eq_ok.mp h).1
    · rintro rfl
      exact ⟨0, 0, rfl⟩
  of_bind := by
    rintro α β x f b ⟨n, m, h⟩
    rcases bind_eq_ok.mp h with ⟨a, k, hx, hf⟩
    exact ⟨a, ⟨n, k, hx⟩, k, m, hf⟩

/-- Folding replaces the clauses of a level. -/
theorem Select.FoldsTo.related {s s' : Select} (h : s.FoldsTo s') :
    Select.Related Expr.FoldsTo s s' := by
  unfold Select.FoldsTo at h
  rw [Select.fold_eq_traverse] at h
  exact Folding.results.related h

namespace Expr

variable {r : Expr}

/-- Folding replaces the parts of an expression, and then an operator on constants. -/
theorem FoldsTo.rebuilt {e : Expr} (h : e.FoldsTo r) :
    ∃ e', Rebuilt FoldsTo e e' ∧ e'.SettlesTo r := by
  rcases h with ⟨n, m, h⟩
  rw [fold_eq_traverse] at h
  rcases Folding.bind_eq_ok.mp h with ⟨e', k, htraverse, hsettle⟩
  exact ⟨e', Folding.results.rebuilt ⟨n, k, htraverse⟩, settle_eq_ok hsettle⟩

theorem SettlesTo.eq {e : Expr} (h : e.SettlesTo r) (hfoldable : e.isFoldable = false) : r = e := by
  rcases h with ⟨_, h⟩ | ⟨v, htrue, _⟩
  · exact h
  · rw [hfoldable] at htrue
    cases htrue

/-- What has no parts stays. -/
theorem FoldsTo.eq_of_isLeaf {e : Expr} (h : e.FoldsTo r) (hleaf : e.isLeaf = true) : r = e := by
  rcases h.rebuilt with ⟨e', hparts, hsettles⟩
  cases hparts with
  | constant v | parameter name | field f | rowField path | collection c => exact hsettles.eq rfl
  | _ => cases hleaf

theorem foldsTo_select {s : Select} (h : (select s).FoldsTo r) :
    ∃ s', r = .select s' ∧ s.FoldsTo s' := by
  rcases h with ⟨n, m, h⟩
  rw [fold_form] at h
  rcases Folding.map_eq_ok.mp h with ⟨s', hs, rfl⟩
  exact ⟨s', rfl, n, m, hs⟩

theorem foldsTo_projection {s : Select} {e : Expr} (h : (projection s e).FoldsTo r) :
    ∃ s' e', r = .projection s' e' ∧ s.FoldsTo s' ∧ e.FoldsTo e' := by
  rcases h with ⟨n, m, h⟩
  rw [fold_form] at h
  rcases Folding.bind_eq_ok.mp h with ⟨s', k, hs, h⟩
  rcases Folding.bind_eq_ok.mp h with ⟨e', l, he, h⟩
  exact ⟨s', e', (Folding.pure_eq_ok.mp h).1.symm, ⟨n, k, hs⟩, k, l, he⟩

end Expr

/-! ### Binding -/

/-- What binding makes of an expression that is read for some rows. -/
def Expr.BindsTo (store : Option Store) (rows : Option Rows) (e e' : Expr) : Prop :=
  e.bind store rows = .ok e'

/-- What binding makes of a level. -/
def Select.BindsTo (store : Option Store) (s s' : Select) : Prop :=
  s.bind store = .ok s'

/-- The result of a computation that may fail. -/
def Except.results (ε : Type) : Results (Except ε) where
  gives x a := x = .ok a
  pure_iff := ⟨Except.ok.inj, congrArg Except.ok⟩
  of_bind := Except.bind_eq_ok.mp

/-- Binding replaces the clauses of a level, which are read for the rows of its source. -/
theorem Select.BindsTo.related {store : Option Store} {s s' : Select} (h : s.BindsTo store s') :
    Select.Related (Expr.BindsTo store (some s.sourceRows)) s s' := by
  unfold Select.BindsTo at h
  rw [Select.bind_eq_traverse] at h
  exact (Except.results QueryError).related h

/-- The names under which a chain of members of a class is stored. -/
def storedNames? (store : Option Store) (documentClass : Option String) (names : List String) :
    Except QueryError (List String) :=
  match store with
  | none => .ok names
  | some s => ofMapping (storedPath s documentClass names)

/-- Without a class, or without a store, members keep their names. -/
theorem storedNames?_of_none {store : Option Store} {documentClass : Option String}
    (h : store = none ∨ documentClass = none) (names : List String) :
    storedNames? store documentClass names = .ok names := by
  rcases h with rfl | rfl
  · rfl
  · cases store with
    | none => rfl
    | some s =>
        rw [storedNames?, FieldChain.storedPath_none]
        rfl

theorem bindPath_some (store : Option Store) (rows : Rows) (names : List String) :
    bindPath store (some rows) names =
      (storedNames? store rows.documentClass names >>= fun path =>
        .ok (.field ⟨rows.label, String.intercalate "." path⟩)) := by
  cases store <;> rfl

/-- A chain of members is bound to the field at the end of its stored names. -/
theorem bindPath_eq_ok {store : Option Store} {rows : Rows} {names : List String} {r : Expr} :
    bindPath store (some rows) names = .ok r ↔
      ∃ path, storedNames? store rows.documentClass names = .ok path ∧
        r = .field ⟨rows.label, String.intercalate "." path⟩ := by
  rw [bindPath_some, Except.bind_eq_ok]
  constructor
  · rintro ⟨path, hpath, h⟩
    exact ⟨path, hpath, (Except.ok.inj h).symm⟩
  · rintro ⟨path, hpath, rfl⟩
    exact ⟨path, hpath, rfl⟩

namespace Expr

variable {store : Option Store} {rows : Option Rows} {r : Expr}

theorem bindsTo_chain {e : Expr} {chain : List String} (hchain : e.parameterChain? = some chain)
    (h : e.BindsTo store rows r) : bindChain store rows chain = .ok r := by
  unfold BindsTo Expr.bind at h
  rw [hchain] at h
  exact h

/-- Binding of an expression through its operands. -/
def bindOperands (store : Option Store) (rows : Option Rows) : Expr → Except QueryError Expr
  | .member e name => do (← e.bind store rows).bindMember name
  | .binary op left right => do
    let left ← left.bind store rows
    return .binary op left (← right.bind store rows)
  | .unary op e => do return .unary op (← e.bind store rows)
  | .call method receiver arguments => do
    let receiver ← bindOption store rows receiver
    return .call method receiver (← bindEach store rows arguments)
  | .object members => do return .object (← bindNamed store rows members)
  | .select s => do return .select (← s.bind store)
  | .projection source projector => do
    let source ← source.bind store
    return .projection source (← projector.bind store (some source.rows))
  | .aggregate kind argument distinct => do
    return .aggregate kind (← bindOption store rows argument) distinct
  | .subquery s => do return .subquery (← s.bind store)
  | leaf => .ok leaf

/-- What is no chain of members on a parameter is bound through its operands. -/
theorem bind_form {e : Expr} (hchain : e.parameterChain? = none) :
    e.bind store rows = e.bindOperands store rows := by
  rw [Expr.bind.eq_def, hchain]
  cases e <;> rfl

theorem bindsTo_form {e : Expr} (hchain : e.parameterChain? = none)
    (h : e.BindsTo store rows r) : e.bindOperands store rows = .ok r :=
  (bind_form hchain).symm.trans h

/-- Binding replaces the parts of what is neither a member nor a query. -/
theorem BindsTo.rebuilt {e : Expr} (h : e.BindsTo store rows r) (hquery : e.isQuery = false)
    (hmember : e.isMember = false) : Rebuilt (BindsTo store rows) e r := by
  unfold BindsTo at h
  rw [bind_eq_traverse store rows hquery hmember] at h
  exact (Except.results QueryError).rebuilt h

/-- What has no parts stays. -/
theorem BindsTo.eq_of_isLeaf {e : Expr} (h : e.BindsTo store rows r) (hleaf : e.isLeaf = true) :
    r = e := by
  cases e with
  | constant v | parameter name | field f | rowField path | collection c =>
      cases h.rebuilt rfl rfl
      rfl
  | _ => cases hleaf

theorem bindsTo_select {s : Select} (h : (select s).BindsTo store rows r) :
    ∃ s', r = .select s' ∧ s.BindsTo store s' := by
  rcases Except.bind_eq_ok.mp (bindsTo_form rfl h) with ⟨s', hs, h⟩
  exact ⟨s', (Except.ok.inj h).symm, hs⟩

theorem bindsTo_subquery {s : Select} (h : (subquery s).BindsTo store rows r) :
    ∃ s', r = .subquery s' ∧ s.BindsTo store s' := by
  rcases Except.bind_eq_ok.mp (bindsTo_form rfl h) with ⟨s', hs, h⟩
  exact ⟨s', (Except.ok.inj h).symm, hs⟩

theorem bindsTo_projection {s : Select} {e : Expr} (h : (projection s e).BindsTo store rows r) :
    ∃ s' e', r = .projection s' e' ∧ s.BindsTo store s' ∧ e.BindsTo store (some s'.rows) e' := by
  rcases Except.bind_eq_ok.mp (bindsTo_form rfl h) with ⟨s', hs, h⟩
  rcases Except.bind_eq_ok.mp h with ⟨e', he, h⟩
  exact ⟨s', e', (Except.ok.inj h).symm, hs, he⟩

theorem bindsTo_member {e : Expr} {name : String} (hchain : (member e name).parameterChain? = none)
    (h : (member e name).BindsTo store rows r) :
    ∃ e', e.BindsTo store rows e' ∧ e'.bindMember name = .ok r := by
  exact Except.bind_eq_ok.mp (bindsTo_form hchain h)

/-- A member of what an operand is bound to: a part of an object, a field inside a field,
    or the member as it is. -/
theorem bindMember_eq_ok {e : Expr} {name : String} (h : e.bindMember name = .ok r) :
    (∃ members, e = .object members ∧ members.lookup name = some r) ∨
      (∃ f, e = .field f ∧ isLengthMember name = false ∧
        r = .field { f with path := f.path ++ "." ++ name }) ∨
      r = .member e name := by
  cases e with
  | object members =>
      rw [bindMember] at h
      cases hlookup : members.lookup name with
      | none =>
          rw [hlookup] at h
          cases h
      | some part =>
          rw [hlookup] at h
          cases h
          exact .inl ⟨members, rfl, hlookup⟩
  | field f =>
      rw [bindMember] at h
      -- A length is kept as a member of the field, since the document has no such path.
      by_cases hlength : isLengthMember name = true
      · rw [if_pos hlength] at h
        exact .inr (.inr (Except.ok.inj h).symm)
      · rw [if_neg hlength] at h
        exact .inr (.inl ⟨f, rfl, Bool.eq_false_iff.mpr hlength, (Except.ok.inj h).symm⟩)
  | _ => exact .inr (.inr (Except.ok.inj h).symm)

theorem bindsTo_binary {op : BinaryOp} {left right : Expr}
    (h : (binary op left right).BindsTo store rows r) :
    ∃ left' right', left.BindsTo store rows left' ∧ right.BindsTo store rows right' ∧
      r = .binary op left' right' := by
  cases h.rebuilt rfl rfl with
  | binary _ hleft hright => exact ⟨_, _, hleft, hright, rfl⟩

end Expr

end DocumentMapper
