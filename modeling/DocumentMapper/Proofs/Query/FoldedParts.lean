import DocumentMapper.Proofs.Query.Agreement

/-!
# Folding part by part

What folding makes of an expression is known from what it makes of the parts: the
expression is rebuilt from its folded parts, and then an operator on constants gives way
to its value. Where folding fails, it fails in one of the parts or with the failure of
such an operator.

## Main definitions

* `Folding.Yields`: Runs that give one result wherever their count begins.
* `Folding.failures`: Runs that fail in a certain way only.

## Theorems

* `foldsTo_iff_rebuilt`: The folded expression.
* `fold_eq_error`: The failure.
-/

namespace DocumentMapper

namespace Folding

variable {α γ : Type}

/-- A run that gives the same result wherever its count begins. -/
def Yields (x : Folding α) (a : α) : Prop :=
  ∀ n, ∃ m, x.run n = .ok (a, m)

theorem yields_iff_agree {x : Folding α} {a : α} : Yields x a ↔ Agree Eq x (pure a) := by
  constructor
  · intro h n m
    rcases h n with ⟨k, h⟩
    rw [h]
    exact rfl
  · intro h n
    rcases (h n n).exists_left rfl with ⟨⟨_, m⟩, hn, rfl⟩
    exact ⟨m, hn⟩

theorem Yields.bind {x : Folding α} {f : α → Folding γ} {a : α} {c : γ} (h : Yields x a)
    (hf : Yields (f a) c) : Yields (x >>= f) c := by
  intro n
  rcases h n with ⟨k, h⟩
  rcases hf k with ⟨m, hf⟩
  exact ⟨m, bind_eq_ok.mpr ⟨a, k, h, hf⟩⟩

theorem bind_eq_error {x : Folding α} {f : α → Folding γ} {n : Nat} {err : QueryError}
    (h : (x >>= f).run n = .error err) :
    x.run n = .error err ∨ ∃ a k, x.run n = .ok (a, k) ∧ (f a).run k = .error err := by
  rw [StateT.run_bind] at h
  cases hx : x.run n with
  | error err' =>
      rw [hx] at h
      cases h
      exact .inl rfl
  | ok a =>
      rw [hx] at h
      exact .inr ⟨a.1, a.2, rfl, h⟩

/-- What is there beforehand, related to the results of a run that fails in a certain way
    only. -/
def failures (P : QueryError → Prop) : Relator Folding where
  rel R x y := (∀ n err, y.run n = .error err → P err) ∧ results.relator.rel R x y
  pure := by
    intro α β R a b h
    refine ⟨?_, results.relator.pure h⟩
    intro n err herr
    cases herr
  bind := by
    intro α β γ δ R S x y f g h hfg
    refine ⟨?_, results.relator.bind h.2 fun a b hab => (hfg a b hab).2⟩
    intro n err herr
    rcases bind_eq_error herr with hy | ⟨b, k, hy, hg⟩
    · exact h.1 n err hy
    · rcases h.2 b ⟨n, k, hy⟩ with ⟨a, hab, _⟩
      exact (hfg a b hab).1 k err hg

end Folding

namespace Expr

variable {e e' r : Expr} {n : Nat} {err : QueryError}

theorem foldsTo_iff_yields : e.FoldsTo e' ↔ Folding.Yields e.fold e' :=
  foldsTo_iff

/-- Going through the parts fails in one of them. -/
theorem traverse_eq_error {P : QueryError → Prop}
    (h : e.Parts fun p => ∀ n err, p.fold.run n = .error err → P err)
    (herr : (e.traverse Expr.fold).run n = .error err) : P err := by
  -- What is folded stands beside what it is folded from.
  have hparts : Rebuilt (fun p p' => (Folding.failures P).rel FoldsTo (pure p) p'.fold) e e :=
    .same (h.imp fun p hp => ⟨hp, Folding.results.step Expr.fold p p rfl⟩)
  exact ((Folding.failures P).rebuilt (fun _ _ hp => hp) hparts).1 n err herr

/-- What is rebuilt from folded parts is what comes of folding the parts. -/
theorem Rebuilt.traverse_yields (h : Rebuilt FoldsTo e e') :
    Folding.Yields (e.traverse Expr.fold) e' := by
  have step : ∀ p p' : Expr, p.FoldsTo p' → Folding.relator.rel Eq p.fold (pure p') :=
    fun _ _ hp => Folding.yields_iff_agree.mp (foldsTo_iff_yields.mp hp)
  have hagree := Folding.relator.rebuilt step h
  rw [Expr.traverse_eq_pure (parts_iff.mpr fun _ _ => rfl)] at hagree
  exact Folding.yields_iff_agree.mpr (Folding.relator.mono hagree fun _ _ hp => hp.1.eq)

/-- Folding of any form: the parts are folded, and what is rebuilt from them has its value
    put in its place or is left. -/
theorem foldsTo_iff_rebuilt :
    e.FoldsTo r ↔ ∃ e', Rebuilt FoldsTo e e' ∧ e'.SettlesTo r := by
  constructor
  · exact FoldsTo.rebuilt
  · rintro ⟨e', hparts, hsettles⟩
    rw [foldsTo_iff_yields, fold_eq_traverse]
    exact hparts.traverse_yields.bind hsettles.run

theorem foldsTo_binary_iff {op : BinaryOp} {left right : Expr} :
    (binary op left right).FoldsTo r ↔ ∃ left' right', left.FoldsTo left' ∧
      right.FoldsTo right' ∧ (binary op left' right').SettlesTo r := by
  rw [foldsTo_iff_rebuilt]
  constructor
  · rintro ⟨_, hparts, hsettles⟩
    cases hparts with
    | binary _ hleft hright => exact ⟨_, _, hleft, hright, hsettles⟩
  · rintro ⟨left', right', hleft, hright, hsettles⟩
    exact ⟨_, .binary op hleft hright, hsettles⟩

theorem settle_eq_error (h : e.settle.run n = .error err) :
    e.isFoldable = true ∧ e.evaluate none = .error err := by
  unfold settle at h
  split at h
  next hfoldable =>
    refine ⟨hfoldable, ?_⟩
    cases hv : e.evaluate none with
    | error err' =>
        rw [hv] at h
        cases h
        rfl
    | ok v =>
        rw [hv] at h
        cases h
  next => cases h

/-- Folding fails in a part, or with the failure of an operator on constants that has been
    rebuilt. -/
theorem fold_eq_error {P : QueryError → Prop}
    (hparts : e.Parts fun p => ∀ n err, p.fold.run n = .error err → P err)
    (hself : ∀ e', Rebuilt FoldsTo e e' → e'.isFoldable = true → ∀ err,
      e'.evaluate none = .error err → P err)
    (h : e.fold.run n = .error err) : P err := by
  rw [fold_eq_traverse] at h
  -- The failure comes from a part, or from what the folded parts are evaluated to.
  rcases Folding.bind_eq_error h with htraverse | ⟨e', k, htraverse, hsettle⟩
  · exact traverse_eq_error hparts htraverse
  · rcases settle_eq_error hsettle with ⟨hfoldable, hvalue⟩
    exact hself e' (Folding.results.rebuilt ⟨n, k, htraverse⟩) hfoldable err hvalue

end Expr

end DocumentMapper
