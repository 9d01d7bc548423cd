import Mathlib.Data.List.Forall2

/-!
# Computations that may fail

A computation in steps succeeds exactly if each of its steps does, and a list is worked
through exactly if each of its items is. These equivalences take a successful run apart
and put it together again, so that no proof opens the monad.

A computation refines another one if it gives every result the other one gives. It may
give a result where the other one fails; to follow the other one exactly is to fail in the
same way, too. Two computations agree if they fail together and otherwise have related
results; how they fail is left open.

## Main definitions

* `Refines`: The results of a computation are those of another one.
* `Follows`: A refinement that is an equation under a condition.
* `Agree`: Computations that fail together or have related results.

## Theorems

* `bind_eq_ok`, `ok_bind`: A step and what follows it.
* `map_eq_ok`: A last step that cannot fail.
* `mapM_eq_ok`: A list, item by item.
* `Refines.bind`: A computation refined step by step.
* `Follows.bind`, `Follows.mapM`: A computation followed step by step, and item by item.
* `Agree.bind`, `Agree.bind_comm`: Computations that agree step by step, and steps in another
  order.
* `agree_of_eq_ok_iff`: Computations with the same results.
-/

namespace DocumentMapper

namespace Except

variable {ε α β : Type}

theorem bind_eq_ok {x : Except ε α} {f : α → Except ε β} {b : β} :
    x >>= f = .ok b ↔ ∃ a, x = .ok a ∧ f a = .ok b := by
  cases x with
  | error e =>
      constructor
      · intro h
        cases h
      · rintro ⟨a, h, _⟩
        cases h
  | ok a =>
      constructor
      · intro h
        exact ⟨a, rfl, h⟩
      · rintro ⟨a', h, hf⟩
        cases h
        exact hf

theorem exists_of_bind_eq_ok {x : Except ε α} {f : α → Except ε β} {b : β}
    (h : x >>= f = .ok b) : ∃ a, x = .ok a := by
  rcases bind_eq_ok.mp h with ⟨a, ha, _⟩
  exact ⟨a, ha⟩

theorem ok_bind (a : α) (f : α → Except ε β) : (.ok a : Except ε α) >>= f = f a := by
  rfl

theorem map_eq_ok {x : Except ε α} {f : α → β} {b : β} :
    f <$> x = .ok b ↔ ∃ a, x = .ok a ∧ f a = b := by
  cases x with
  | error e =>
      constructor
      · intro h
        cases h
      · rintro ⟨a, h, _⟩
        cases h
  | ok a =>
      constructor
      · intro h
        exact ⟨a, rfl, Except.ok.inj h⟩
      · rintro ⟨a', h, hf⟩
        cases h
        rw [← hf]
        rfl

/-- A failure is seen whatever is made of a result. -/
theorem eq_error_of_map {x : Except ε α} {f : α → β} {e : ε} (h : x.map f = .error e) :
    x = .error e := by
  cases x with
  | error e' => exact congrArg Except.error (Except.error.inj h)
  | ok a => cases h

/-- A list is worked through exactly if each item is, and the results are in order. -/
theorem mapM_eq_ok {f : α → Except ε β} {items : List α} :
    ∀ {results : List β}, items.mapM f = .ok results ↔
      List.Forall₂ (fun item result => f item = .ok result) items results := by
  induction items with
  | nil =>
      intro results
      rw [List.mapM_nil, List.forall₂_nil_left_iff]
      exact ⟨fun h => (Except.ok.inj h).symm, fun h => by rw [h]; rfl⟩
  | cons item rest ih =>
      intro results
      rw [List.mapM_cons, bind_eq_ok]
      constructor
      · rintro ⟨result, hitem, h⟩
        rcases bind_eq_ok.mp h with ⟨results', hrest, h⟩
        rw [← Except.ok.inj h]
        exact List.Forall₂.cons hitem (ih.mp hrest)
      · intro h
        rcases List.forall₂_cons_left_iff.mp h with ⟨result, results', hitem, hrest, rfl⟩
        exact ⟨result, hitem, bind_eq_ok.mpr ⟨results', ih.mpr hrest, rfl⟩⟩

/-- Whatever the first computation gives, the second one gives as well. -/
def Refines (x y : Except ε α) : Prop :=
  ∀ a, x = .ok a → y = .ok a

namespace Refines

theorem rfl {x : Except ε α} : Refines x x :=
  fun _ h => h

theorem trans {x y z : Except ε α} (h : Refines x y) (h' : Refines y z) : Refines x z :=
  fun a ha => h' a (h a ha)

theorem error (e : ε) (y : Except ε α) : Refines (.error e) y := by
  intro a h
  cases h

theorem bind {x y : Except ε α} {f g : α → Except ε β} (h : Refines x y)
    (hfg : ∀ a, Refines (f a) (g a)) : Refines (x >>= f) (y >>= g) := by
  intro b hb
  rcases bind_eq_ok.mp hb with ⟨a, ha, hb⟩
  exact bind_eq_ok.mpr ⟨a, h a ha, hfg a b hb⟩

theorem bind_left {x y : Except ε α} (f : α → Except ε β) (h : Refines x y) :
    Refines (x >>= f) (y >>= f) :=
  h.bind fun _ => rfl

end Refines

/-- Whatever the first computation gives, the second one gives as well. Where that is to be
    exact, the two are the same, failures included. -/
structure Follows (exact : Prop) (x y : Except ε α) : Prop where
  refines : Refines x y
  same : exact → x = y

namespace Follows

variable {exact : Prop}

theorem of_eq {x y : Except ε α} (h : x = y) : Follows exact x y where
  refines := h ▸ Refines.rfl
  same _ := h

theorem error (h : ¬ exact) (e : ε) (y : Except ε α) : Follows exact (.error e) y where
  refines := .error e y
  same hexact := absurd hexact h

theorem bind {x y : Except ε α} {f g : α → Except ε β} (h : Follows exact x y)
    (hfg : ∀ a, x = .ok a → Follows exact (f a) (g a)) : Follows exact (x >>= f) (y >>= g) where
  refines b hb := by
    rcases bind_eq_ok.mp hb with ⟨a, ha, hb⟩
    exact bind_eq_ok.mpr ⟨a, h.refines a ha, (hfg a ha).refines b hb⟩
  same hexact := by
    rw [← h.same hexact]
    cases x with
    | error e => exact Eq.refl _
    | ok a => exact (hfg a (Eq.refl _)).same hexact

theorem map (f : α → β) {x y : Except ε α} (h : Follows exact x y) :
    Follows exact (f <$> x) (f <$> y) where
  refines b hb := by
    rcases map_eq_ok.mp hb with ⟨a, ha, hb⟩
    exact map_eq_ok.mpr ⟨a, h.refines a ha, hb⟩
  same hexact := congrArg (f <$> ·) (h.same hexact)

/-- A list is followed if each of its items is. -/
theorem mapM {f g : α → Except ε β} {items : List α}
    (h : ∀ item ∈ items, Follows exact (f item) (g item)) :
    Follows exact (items.mapM f) (items.mapM g) := by
  induction items with
  | nil => exact of_eq (Eq.refl _)
  | cons item rest ih =>
      rw [List.mapM_cons, List.mapM_cons]
      refine (h item List.mem_cons_self).bind fun result _ => ?_
      have hrest := ih fun other hother => h other (List.mem_cons_of_mem _ hother)
      exact hrest.bind fun results _ => of_eq (Eq.refl _)

end Follows

theorem mapM_congr {f g : α → Except ε β} {items : List α} (h : ∀ item ∈ items, f item = g item) :
    items.mapM f = items.mapM g :=
  (Follows.mapM fun item hitem => Follows.of_eq (h item hitem)).same trivial

/-- Two computations both fail, or both succeed with related results. -/
def Agree {γ : Type} (R : α → γ → Prop) : Except ε α → Except ε γ → Prop
  | .ok a, .ok c => R a c
  | .error _, .error _ => True
  | _, _ => False

namespace Agree

variable {γ δ : Type} {R : α → γ → Prop} {S : β → δ → Prop} {x : Except ε α} {y : Except ε γ}

theorem refl (x : Except ε α) : Agree Eq x x := by
  cases x with
  | error e => exact trivial
  | ok a => exact Eq.refl a

theorem mono {R' : α → γ → Prop} (h : Agree R x y) (hR : ∀ a c, R a c → R' a c) :
    Agree R' x y := by
  cases x <;> cases y
  · exact trivial
  · exact h
  · exact h
  · exact hR _ _ h

theorem bind {f : α → Except ε β} {g : γ → Except ε δ} (h : Agree R x y)
    (hfg : ∀ a c, R a c → Agree S (f a) (g c)) : Agree S (x >>= f) (y >>= g) := by
  cases x <;> cases y
  · exact trivial
  · exact h.elim
  · exact h.elim
  · exact hfg _ _ h

/-- Of two steps neither of which needs the other it does not matter which is the first. -/
theorem bind_comm {κ κ' : Type} {T : κ → κ' → Prop} {x' : Except ε β} {y' : Except ε δ}
    {f : α → β → Except ε κ} {g : γ → δ → Except ε κ'} (hx : Agree R x y) (hx' : Agree S x' y')
    (hfg : ∀ a c, R a c → ∀ b d, S b d → Agree T (f a b) (g c d)) :
    Agree T (do let a ← x; let b ← x'; f a b) (do let d ← y'; let c ← y; g c d) := by
  -- A failure on one side is met by a failure on the other at whichever of the two steps it comes,
  -- so only the case of two results says something.
  cases x <;> cases y
  · cases y' <;> exact trivial
  · exact hx.elim
  · exact hx.elim
  · cases x' <;> cases y'
    · exact trivial
    · exact hx'.elim
    · exact hx'.elim
    · exact hfg _ _ hx _ _ hx'

/-- What one computation gives is related to what the other one gives. -/
theorem exists_right (h : Agree R x y) {a : α} (hx : x = .ok a) : ∃ c, y = .ok c ∧ R a c := by
  subst hx
  cases y with
  | error e => exact h.elim
  | ok c => exact ⟨c, Eq.refl _, h⟩

theorem exists_left (h : Agree R x y) {c : γ} (hy : y = .ok c) : ∃ a, x = .ok a ∧ R a c := by
  subst hy
  cases x with
  | error e => exact h.elim
  | ok a => exact ⟨a, Eq.refl _, h⟩

end Agree

/-- Computations that give the same results fail together. -/
theorem agree_of_eq_ok_iff {x y : Except ε α} (h : ∀ a, x = .ok a ↔ y = .ok a) :
    Agree Eq x y := by
  cases x with
  | error e =>
      cases y with
      | error e' => exact trivial
      -- One result alone would be a result of both.
      | ok a => cases (h a).mpr rfl
  | ok a =>
      rw [(h a).mp rfl]
      exact Agree.refl _

end Except

end DocumentMapper
