import DocumentMapper.Proofs.Query.Rebuilding
import DocumentMapper.Query.Binding
import DocumentMapper.Query.Ordering

/-!
# Going through a level

Folding, binding and hoisting all go through a level in the same way: what the step makes
of the clauses is put in their place, from the source to the last clause. So a relation
between computations that goes over from one computation and what follows it to both
(`Relator`) needs to be looked at for expressions only, and whatever a step gives for a
level is made of what it gives for the clauses (`Results`). Folding goes through every form
of expression in this way, binding through all but members and queries, and hoisting through
all but queries.

## Main definitions

* `Select.traverse`, `Expr.traverse`: Going through a level and through an expression.
* `Relator`: Relations of computations.
* `Results`: What computations may give.

## Theorems

* `Relator.traverse`, `Relator.rebuilt`: Going through levels whose clauses are related,
  and through expressions whose parts are.
* `Results.related`, `Results.rebuilt`: What going through them gives.
* `traverse_eq_pure`: Going through them if what is made of the parts is known.
* `fold_eq_traverse`, `bind_eq_traverse`, `hoist_eq_traverse`: The three steps.
-/

namespace DocumentMapper

section

variable {m : Type → Type} [Monad m] {κ : Type}

/-- Replaces an expression and keeps what it goes with. -/
def traverseNamed (f : Expr → m Expr) (member : κ × Expr) : m (κ × Expr) := do
  return (member.1, ← f member.2)

/-- Replaces the clauses of a level, the source first. -/
def Select.traverse (f : Expr → m Expr) (s : Select) : m Select := do
  let source ← s.source.mapM f
  let filter ← s.filter.mapM f
  let group ← s.group.mapM (·.mapM f)
  let fields ← s.fields.mapM (traverseNamed f)
  let order ← s.order.mapM (traverseNamed f)
  let skip ← s.skip.mapM f
  let take ← s.take.mapM f
  return ⟨s.label, fields, source, filter, order, group, s.distinct, skip, take⟩

end

/-- Levels whose clauses are related to themselves. -/
theorem Select.Clauses.related {R : Expr → Expr → Prop} {s : Select}
    (h : s.Clauses fun e => R e e) : Select.Related R s s where
  label := rfl
  fields := namedRelated_same h.fields
  source := rel_same h.source
  filter := rel_same h.filter
  order := namedRelated_same h.order
  group := rel_same fun keys hkeys => List.forall₂_same.mpr (h.group keys hkeys)
  distinct := rfl
  skip := rel_same h.skip
  take := rel_same h.take

/-! ### Related computations -/

/-- A way to relate computations by how their results are related. -/
structure Relator (m : Type → Type) [Monad m] where
  rel : ∀ {α β : Type}, (α → β → Prop) → m α → m β → Prop
  pure : ∀ {α β : Type} {R : α → β → Prop} {a : α} {b : β}, R a b →
    rel R (Pure.pure a) (Pure.pure b)
  bind : ∀ {α β γ δ : Type} {R : α → β → Prop} {S : γ → δ → Prop} {x : m α} {y : m β}
    {f : α → m γ} {g : β → m δ}, rel R x y → (∀ a b, R a b → rel S (f a) (g b)) →
    rel S (x >>= f) (y >>= g)

namespace Relator

variable {m : Type → Type} [Monad m] (r : Relator m)

theorem bind_eq {α β γ : Type} {S : β → γ → Prop} {x y : m α} {f : α → m β} {g : α → m γ}
    (h : r.rel Eq x y) (hfg : ∀ a, r.rel S (f a) (g a)) : r.rel S (x >>= f) (y >>= g) := by
  refine r.bind h ?_
  rintro a _ rfl
  exact hfg a

variable [LawfulMonad m]

theorem map {α β γ δ : Type} {R : α → β → Prop} {S : γ → δ → Prop} {x : m α} {y : m β}
    {f : α → γ} {g : β → δ} (h : r.rel R x y) (hfg : ∀ a b, R a b → S (f a) (g b)) :
    r.rel S (f <$> x) (g <$> y) := by
  rw [map_eq_pure_bind, map_eq_pure_bind]
  exact r.bind h fun a b hab => r.pure (hfg a b hab)

section

variable {α β γ δ : Type} {R : α → β → Prop} {S : γ → δ → Prop} {f : α → m γ} {g : β → m δ}
  (step : ∀ a b, R a b → r.rel S (f a) (g b))

include step

theorem each {as : List α} {bs : List β} (h : List.Forall₂ R as bs) :
    r.rel (List.Forall₂ S) (as.mapM f) (bs.mapM g) := by
  induction h with
  | nil =>
      rw [List.mapM_nil, List.mapM_nil]
      exact r.pure .nil
  | @cons a b as bs hab _ ih =>
      rw [List.mapM_cons, List.mapM_cons]
      exact r.bind (step a b hab) fun _ _ hcd => r.bind ih fun _ _ hrest => r.pure (.cons hcd hrest)

theorem option {x : Option α} {y : Option β} (h : Option.Rel R x y) :
    r.rel (Option.Rel S) (x.mapM f) (y.mapM g) := by
  cases h with
  | none => exact r.pure .none
  | some hab => exact r.map (step _ _ hab) fun _ _ => .some

end

variable {R S : Expr → Expr → Prop} {f g : Expr → m Expr}
  (step : ∀ e e', R e e' → r.rel S (f e) (g e'))

include step

theorem named {κ : Type} {ms ms' : List (κ × Expr)} (h : NamedRelated R ms ms') :
    r.rel (NamedRelated S) (ms.mapM (traverseNamed f)) (ms'.mapM (traverseNamed g)) := by
  refine r.each ?_ h
  rintro ⟨name, e⟩ ⟨_, e'⟩ ⟨rfl, he⟩
  exact r.bind (step e e' he) fun _ _ hS => r.pure ⟨rfl, hS⟩

/-- Going through levels whose clauses are related. -/
theorem traverse {s s' : Select} (h : Select.Related R s s') :
    r.rel (Select.Related S) (s.traverse f) (s'.traverse g) := by
  -- The keys of a grouping are a list, if there is a grouping.
  have group_step : ∀ es es', List.Forall₂ R es es' →
      r.rel (List.Forall₂ S) (es.mapM f) (es'.mapM g) := fun _ _ => r.each step
  refine r.bind (r.option step h.source) fun _ _ source => ?_
  refine r.bind (r.option step h.filter) fun _ _ filter => ?_
  refine r.bind (r.option group_step h.group) fun _ _ group => ?_
  refine r.bind (r.named step h.fields) fun _ _ fields => ?_
  refine r.bind (r.named step h.order) fun _ _ order => ?_
  refine r.bind (r.option step h.skip) fun _ _ skip => ?_
  refine r.bind (r.option step h.take) fun _ _ take => ?_
  exact r.pure ⟨h.label, fields, source, filter, order, group, h.distinct, skip, take⟩

end Relator

/-! ### Going through an expression -/

section

variable {m : Type → Type} [Monad m]

/-- Replaces the parts of an expression, in the order in which they are evaluated and the
    clauses of a level from the source on. -/
def Expr.traverse (f : Expr → m Expr) : Expr → m Expr
  | .member e name => do return .member (← f e) name
  | .binary op l r => do
    let l ← f l
    return .binary op l (← f r)
  | .unary op e => do return .unary op (← f e)
  | .call method receiver arguments => do
    let receiver ← receiver.mapM f
    return .call method receiver (← arguments.mapM f)
  | .object members => do return .object (← members.mapM (traverseNamed f))
  | .select s => do return .select (← s.traverse f)
  | .projection s e => do
    let s ← s.traverse f
    return .projection s (← f e)
  | .aggregate kind argument distinct => do
    return .aggregate kind (← argument.mapM f) distinct
  | .subquery s => do return .subquery (← s.traverse f)
  | leaf => return leaf

variable [LawfulMonad m] (r : Relator m) {R S : Expr → Expr → Prop} {f g : Expr → m Expr}

/-- Going through expressions whose parts are related. What is no query becomes none. -/
theorem Relator.rebuilt (step : ∀ e e', R e e' → r.rel S (f e) (g e')) {e e' : Expr}
    (h : Expr.Rebuilt R e e') :
    r.rel (fun p p' => Expr.Rebuilt S p p' ∧ p.isQuery = e.isQuery)
      (e.traverse f) (e'.traverse g) := by
  cases h with
  | constant v => exact r.pure ⟨.constant v, rfl⟩
  | parameter name => exact r.pure ⟨.parameter name, rfl⟩
  | field f => exact r.pure ⟨.field f, rfl⟩
  | rowField path => exact r.pure ⟨.rowField path, rfl⟩
  | collection c => exact r.pure ⟨.collection c, rfl⟩
  | member operand name =>
      exact r.bind (step _ _ operand) fun _ _ h => r.pure ⟨.member h name, rfl⟩
  | unary op operand =>
      exact r.bind (step _ _ operand) fun _ _ h => r.pure ⟨.unary op h, rfl⟩
  | binary op left right =>
      exact r.bind (step _ _ left) fun _ _ hl => r.bind (step _ _ right) fun _ _ hr =>
        r.pure ⟨.binary op hl hr, rfl⟩
  | call method receives takes =>
      exact r.bind (r.option step receives) fun _ _ hreceives =>
        r.bind (r.each step takes) fun _ _ htakes => r.pure ⟨.call method hreceives htakes, rfl⟩
  | object contents =>
      exact r.bind (r.named step contents) fun _ _ h => r.pure ⟨.object h, rfl⟩
  | aggregate kind distinct takes =>
      exact r.bind (r.option step takes) fun _ _ h => r.pure ⟨.aggregate kind distinct h, rfl⟩
  | select clauses =>
      exact r.bind (r.traverse step clauses) fun _ _ h => r.pure ⟨.select h, rfl⟩
  | projection clauses shape =>
      exact r.bind (r.traverse step clauses) fun _ _ hs => r.bind (step _ _ shape) fun _ _ he =>
        r.pure ⟨.projection hs he, rfl⟩
  | subquery clauses =>
      exact r.bind (r.traverse step clauses) fun _ _ h => r.pure ⟨.subquery h, rfl⟩

/-! ### The same results -/

namespace Relator

theorem mono {α β : Type} {R R' : α → β → Prop} {x : m α} {y : m β} (h : r.rel R x y)
    (hR : ∀ a b, R a b → R' a b) : r.rel R' x y := by
  have hmap := r.map (f := id) (g := id) h hR
  rwa [id_map, id_map] at hmap

/-- Going through a level, with the same results for every clause. -/
theorem traverse_eq {s : Select} (h : s.Clauses fun e => r.rel Eq (f e) (g e)) :
    r.rel Eq (s.traverse f) (s.traverse g) := by
  have hclauses : Select.Related (fun e e' => r.rel Eq (f e) (g e')) s s := h.related
  exact r.mono (r.traverse (fun _ _ hp => hp) hclauses) fun _ _ hs => hs.eq

/-- Going through an expression, with the same results for every part. -/
theorem rebuilt_eq {e : Expr} (h : e.Parts fun p => r.rel Eq (f p) (g p)) :
    r.rel Eq (e.traverse f) (e.traverse g) := by
  have hparts : Expr.Rebuilt (fun p p' => r.rel Eq (f p) (g p')) e e := .same h
  exact r.mono (r.rebuilt (fun _ _ hp => hp) hparts) fun _ _ he => he.1.eq

end Relator

/-! ### Results that are known -/

section

variable {α β κ : Type} {f : α → m β}

theorem mapM_eq_pure {as : List α} {bs : List β}
    (h : List.Forall₂ (fun a b => f a = pure b) as bs) : as.mapM f = pure bs := by
  induction h with
  | nil => exact List.mapM_nil
  | cons hab _ ih => rw [List.mapM_cons, hab, pure_bind, ih, pure_bind]

theorem option_mapM_eq_pure {x : Option α} {y : Option β}
    (h : Option.Rel (fun a b => f a = pure b) x y) : x.mapM f = pure y := by
  cases h with
  | none => rfl
  | @some a b hab =>
      have hsome : (some a).mapM f = some <$> f a := rfl
      rw [hsome, hab, map_pure]

theorem traverseNamed_eq_pure {f : Expr → m Expr} {ms ms' : List (κ × Expr)}
    (h : NamedRelated (fun e e' => f e = pure e') ms ms') :
    ms.mapM (traverseNamed f) = pure ms' := by
  refine mapM_eq_pure (h.imp fun member member' hmember => ?_)
  rw [traverseNamed, hmember.2, pure_bind, hmember.1]

end

/-- Going through a level if what is made of the clauses is known. -/
theorem Select.Related.traverse_eq_pure {s s' : Select}
    (h : Select.Related (fun e e' => f e = pure e') s s') : s.traverse f = pure s' := by
  have hgroup := option_mapM_eq_pure (rel_imp_of_mem h.group fun _ _ _ => mapM_eq_pure)
  unfold Select.traverse
  rw [option_mapM_eq_pure h.source, option_mapM_eq_pure h.filter, hgroup,
    traverseNamed_eq_pure h.fields, traverseNamed_eq_pure h.order, option_mapM_eq_pure h.skip,
    option_mapM_eq_pure h.take]
  simp only [pure_bind, h.label, h.distinct]
  cases s'
  rfl

/-- Going through an expression if what is made of the parts is known. -/
theorem Expr.Rebuilt.traverse_eq_pure {e e' : Expr}
    (h : Rebuilt (fun p p' => f p = pure p') e e') : e.traverse f = pure e' := by
  cases h with
  | constant v | parameter name | field f | rowField path | collection c => rfl
  | member operand name | unary op operand => rw [traverse, operand, pure_bind]
  | binary op left right => rw [traverse, left, pure_bind, right, pure_bind]
  | call method receives takes =>
      rw [traverse, option_mapM_eq_pure receives, pure_bind, mapM_eq_pure takes, pure_bind]
  | object contents => rw [traverse, traverseNamed_eq_pure contents, pure_bind]
  | aggregate kind distinct takes => rw [traverse, option_mapM_eq_pure takes, pure_bind]
  | select clauses | subquery clauses => rw [traverse, clauses.traverse_eq_pure, pure_bind]
  | projection clauses shape => rw [traverse, clauses.traverse_eq_pure, pure_bind, shape, pure_bind]

/-- If all clauses stay then so does the level. -/
theorem Select.traverse_eq_pure {s : Select} (h : s.Clauses fun e => f e = pure e) :
    s.traverse f = pure s := by
  have hclauses : Select.Related (fun e e' => f e = pure e') s s := h.related
  exact hclauses.traverse_eq_pure

/-- If all parts stay then so does the expression. -/
theorem Expr.traverse_eq_pure {e : Expr} (h : e.Parts fun p => f p = pure p) :
    e.traverse f = pure e := by
  have hparts : Rebuilt (fun p p' => f p = pure p') e e := .same h
  exact hparts.traverse_eq_pure

end

/-! ### Results -/

/-- What computations may give. What a sequence of them gives is given by the last. -/
structure Results (m : Type → Type) [Monad m] where
  gives : ∀ {α : Type}, m α → α → Prop
  pure_iff : ∀ {α : Type} {a b : α}, gives (Pure.pure a) b ↔ a = b
  of_bind : ∀ {α β : Type} {x : m α} {f : α → m β} {b : β}, gives (x >>= f) b →
    ∃ a, gives x a ∧ gives (f a) b

namespace Results

variable {m : Type → Type} [Monad m] [LawfulMonad m] (r : Results m)

/-- What is there beforehand, related to all that a computation may give. -/
def relator : Relator m where
  rel R x y := ∀ b, r.gives y b → ∃ a, R a b ∧ x = Pure.pure a
  pure := by
    intro α β R a b h b' hb
    rw [← r.pure_iff.mp hb]
    exact ⟨a, h, rfl⟩
  bind := by
    intro α β γ δ R S x y f g h hfg d hd
    rcases r.of_bind hd with ⟨b, hb, hd⟩
    rcases h b hb with ⟨a, hab, rfl⟩
    rcases hfg a b hab d hd with ⟨c, hcd, hc⟩
    exact ⟨c, hcd, (pure_bind a f).trans hc⟩

theorem step (f : Expr → m Expr) (e e' : Expr) (h : e = e') :
    r.relator.rel (fun p p' => r.gives (f p) p') (Pure.pure e) (f e') := by
  rw [h]
  exact fun b hb => ⟨e', hb, rfl⟩

theorem of_rel {α β : Type} {R : α → β → Prop} {a : α} {y : m β} {b : β}
    (h : r.relator.rel R (Pure.pure a) y) (hb : r.gives y b) : R a b := by
  rcases h b hb with ⟨a', hab, hpure⟩
  have ha : a' = a := r.pure_iff.mp (hpure ▸ r.pure_iff.mpr rfl)
  exact ha ▸ hab

/-- What going through a level gives is a level whose clauses are given one by one. -/
theorem related {f : Expr → m Expr} {s s' : Select} (h : r.gives (s.traverse f) s') :
    Select.Related (fun p p' => r.gives (f p) p') s s' := by
  have hclauses : Select.Related Eq s s :=
    Select.Clauses.related (Select.clauses_iff.mpr fun _ _ => rfl)
  have hrel := r.relator.traverse (r.step f) hclauses
  rw [Select.traverse_eq_pure (Select.clauses_iff.mpr fun _ _ => rfl)] at hrel
  exact r.of_rel hrel h

/-- What going through an expression gives is rebuilt from what is given for its parts. -/
theorem rebuilt {f : Expr → m Expr} {e e' : Expr} (h : r.gives (e.traverse f) e') :
    Expr.Rebuilt (fun p p' => r.gives (f p) p') e e' := by
  have hparts : Expr.Rebuilt Eq e e := .same (Expr.parts_iff.mpr fun _ _ => rfl)
  have hrel := r.relator.rebuilt (r.step f) hparts
  rw [Expr.traverse_eq_pure (Expr.parts_iff.mpr fun _ _ => rfl)] at hrel
  exact (r.of_rel hrel h).1

end Results

/-! ### The steps of a translation -/

theorem foldOption_eq_mapM (x : Option Expr) : foldOption x = x.mapM Expr.fold := by
  cases x <;> rfl

theorem foldEach_eq_mapM (es : List Expr) : foldEach es = es.mapM Expr.fold := by
  induction es with
  | nil => rfl
  | cons e es ih => rw [foldEach, ih, List.mapM_cons]

theorem foldNamed_eq_mapM (ms : List (String × Expr)) :
    foldNamed ms = ms.mapM (traverseNamed Expr.fold) := by
  induction ms with
  | nil => rfl
  | cons m ms ih =>
      rw [foldNamed, ih, List.mapM_cons, traverseNamed, bind_assoc]
      rfl

theorem foldOrder_eq_mapM (keys : List (Direction × Expr)) :
    foldOrder keys = keys.mapM (traverseNamed Expr.fold) := by
  induction keys with
  | nil => rfl
  | cons key keys ih =>
      rw [foldOrder, ih, List.mapM_cons, traverseNamed, bind_assoc]
      rfl

theorem foldGroup_eq_mapM (x : Option (List Expr)) :
    foldGroup x = x.mapM (·.mapM Expr.fold) := by
  cases x with
  | none => rfl
  | some keys => rw [foldGroup, foldEach_eq_mapM]; rfl

theorem Select.fold_eq_traverse (s : Select) : s.fold = s.traverse Expr.fold := by
  rcases s with ⟨label, fields, source, filter, order, group, distinct, skip, take⟩
  unfold Select.fold Select.traverse
  simp only [foldOption_eq_mapM, foldGroup_eq_mapM, foldNamed_eq_mapM, foldOrder_eq_mapM]

/-- Operands are folded before the operator, and what has no operands stays. -/
theorem Expr.fold_form (e : Expr) :
    e.fold = match e with
      | .member e name => do (Expr.member (← e.fold) name).settle
      | .binary op l r => do
        let l ← l.fold
        (Expr.binary op l (← r.fold)).settle
      | .unary op e => do (Expr.unary op (← e.fold)).settle
      | .call method receiver arguments => do
        let receiver ← foldOption receiver
        (Expr.call method receiver (← foldEach arguments)).settle
      | .object members => do (Expr.object (← foldNamed members)).settle
      | .select s => .select <$> s.fold
      | .projection s p => do
        let s ← s.fold
        return .projection s (← p.fold)
      | .aggregate kind argument distinct => do
        return .aggregate kind (← foldOption argument) distinct
      | .subquery s => .subquery <$> s.fold
      | leaf => return leaf := by
  cases e <;> rw [Expr.fold]

/-- Folding goes through the parts and then puts the value in the place of an operator on
    constants. -/
theorem Expr.fold_eq_traverse (e : Expr) : e.fold = e.traverse Expr.fold >>= Expr.settle := by
  rw [fold_form]
  cases e with
  | constant v | parameter name | field f | rowField path | collection c => rfl
  | member e name | unary op e | binary op l r => simp only [traverse, bind_assoc, pure_bind]
  | call method receiver arguments =>
      simp only [traverse, foldOption_eq_mapM, foldEach_eq_mapM, bind_assoc, pure_bind]
  | object members => simp only [traverse, foldNamed_eq_mapM, bind_assoc, pure_bind]
  | aggregate kind argument distinct =>
      simp only [traverse, foldOption_eq_mapM, bind_assoc, pure_bind]
      rfl
  | select s | subquery s =>
      simp only [traverse, Select.fold_eq_traverse, bind_assoc, pure_bind, map_eq_pure_bind]
      rfl
  | projection s e =>
      simp only [traverse, Select.fold_eq_traverse, bind_assoc, pure_bind]
      rfl

section

variable (store : Option Store) (rows : Option Rows)

theorem bindOption_eq_mapM (x : Option Expr) :
    bindOption store rows x = x.mapM (Expr.bind store rows) := by
  cases x with
  | none => rfl
  | some e => rw [bindOption]; rfl

theorem bindEach_eq_mapM (es : List Expr) :
    bindEach store rows es = es.mapM (Expr.bind store rows) := by
  induction es with
  | nil => rfl
  | cons e es ih => rw [bindEach, ih, List.mapM_cons]

theorem bindNamed_eq_mapM (ms : List (String × Expr)) :
    bindNamed store rows ms = ms.mapM (traverseNamed (Expr.bind store rows)) := by
  induction ms with
  | nil => rfl
  | cons m ms ih =>
      rw [bindNamed, ih, List.mapM_cons, traverseNamed, bind_assoc]
      rfl

theorem bindOrder_eq_mapM (keys : List (Direction × Expr)) :
    bindOrder store rows keys = keys.mapM (traverseNamed (Expr.bind store rows)) := by
  induction keys with
  | nil => rfl
  | cons key keys ih =>
      rw [bindOrder, ih, List.mapM_cons, traverseNamed, bind_assoc]
      rfl

theorem bindGroup_eq_mapM (x : Option (List Expr)) :
    bindGroup store rows x = x.mapM (·.mapM (Expr.bind store rows)) := by
  cases x with
  | none => rfl
  | some keys => rw [bindGroup, bindEach_eq_mapM]; rfl

theorem Select.bind_eq_traverse (s : Select) :
    s.bind store = s.traverse (Expr.bind store (some s.sourceRows)) := by
  rcases s with ⟨label, fields, source, filter, order, group, distinct, skip, take⟩
  unfold Select.bind Select.traverse
  simp only [bindOption_eq_mapM, bindGroup_eq_mapM, bindNamed_eq_mapM, bindOrder_eq_mapM]

/-- Binding goes through the parts of what is neither a member nor a query. -/
theorem Expr.bind_eq_traverse {e : Expr} (hquery : e.isQuery = false)
    (hmember : e.isMember = false) :
    e.bind store rows = e.traverse (Expr.bind store rows) := by
  have hchain : e.parameterChain? = none := by
    cases e with
    | member e name => cases hmember
    | _ => rfl
  rw [Expr.bind.eq_def, hchain]
  cases e with
  | member e name => cases hmember
  | select s | projection s e | subquery s => cases hquery
  | constant v | parameter name | field f | rowField path | collection c => rfl
  | unary op e | binary op l r => rfl
  | call method receiver arguments =>
      simp only [traverse, bindOption_eq_mapM, bindEach_eq_mapM]
  | object members => simp only [traverse, bindNamed_eq_mapM]
  | aggregate kind argument distinct => simp only [traverse, bindOption_eq_mapM]

end

section

variable (outermost : Bool)

theorem hoistOption_eq_mapM (x : Option Expr) :
    hoistOption outermost x = x.mapM (Expr.hoist outermost) := by
  cases x with
  | none => rw [hoistOption]; rfl
  | some e => rw [hoistOption]; rfl

theorem hoistEach_eq_mapM (es : List Expr) :
    hoistEach outermost es = es.mapM (Expr.hoist outermost) := by
  induction es with
  | nil => rw [hoistEach]; rfl
  | cons e es ih => rw [hoistEach, ih, List.mapM_cons]

theorem hoistNamed_eq_mapM (ms : List (String × Expr)) :
    hoistNamed outermost ms = ms.mapM (traverseNamed (Expr.hoist outermost)) := by
  induction ms with
  | nil => rw [hoistNamed]; rfl
  | cons m ms ih =>
      rw [hoistNamed, ih, List.mapM_cons, traverseNamed, bind_assoc]
      rfl

theorem hoistKeys_eq_mapM (keys : List (Direction × Expr)) :
    hoistKeys outermost keys = keys.mapM (traverseNamed (Expr.hoist outermost)) := by
  induction keys with
  | nil => rw [hoistKeys]; rfl
  | cons key keys ih =>
      rw [hoistKeys, ih, List.mapM_cons, traverseNamed, bind_assoc]
      rfl

theorem hoistGroup_eq_mapM (x : Option (List Expr)) :
    hoistGroup outermost x = x.mapM (·.mapM (Expr.hoist outermost)) := by
  cases x with
  | none => rw [hoistGroup]; rfl
  | some keys => rw [hoistGroup, hoistEach_eq_mapM]; rfl

/-- Hoisting goes through the clauses of a level and then gives it its keys. -/
theorem Select.hoist_eq_traverse (s : Select) :
    s.hoist outermost = s.traverse (Expr.hoist false) >>= Select.receive outermost := by
  rcases s with ⟨label, fields, source, filter, order, group, distinct, skip, take⟩
  rw [Select.hoist]
  unfold Select.traverse
  simp only [hoistOption_eq_mapM, hoistGroup_eq_mapM, hoistNamed_eq_mapM, hoistKeys_eq_mapM,
    bind_assoc, pure_bind]

/-- Hoisting goes through the parts of what is no query. -/
theorem Expr.hoist_eq_traverse {e : Expr} (hquery : e.isQuery = false) :
    e.hoist outermost = e.traverse (Expr.hoist outermost) := by
  cases e with
  | select s | projection s e | subquery s => cases hquery
  | constant v | parameter name | field f | rowField path | collection c => rw [hoist]; rfl
  | member e name | unary op e | binary op l r => rw [hoist]; rfl
  | call method receiver arguments =>
      rw [hoist, hoistOption_eq_mapM, hoistEach_eq_mapM]
      rfl
  | object members =>
      rw [hoist, hoistNamed_eq_mapM]
      rfl
  | aggregate kind argument distinct =>
      rw [hoist, hoistOption_eq_mapM]
      rfl

end

end DocumentMapper
