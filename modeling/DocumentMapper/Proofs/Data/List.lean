import Mathlib.Data.List.Forall2
import Mathlib.Data.List.Nodup

/-!
# Searching lists and relating them

Two small theories that the stores and documents share. A list whose items have
different keys is searched by key without ambiguity. Lists that are related item by
item have corresponding members, and what agrees on related items agrees on the lists.

## Main definitions

* `NamedRelated`: Lists of named things that are related one by one.

## Theorems

* `find?_of_nodup`: An item is found by its key.
* `find?_key_eq_none`: A key that does not occur is not found.
* `mem_of_find?_key`: What is found has the key.
* `mem_of_lookup`: What is found under a key stands there with it.
* `find?_reverse_of_pairwise`: The last item that passes in a list in strict order.
* `map_eraseDupsBy`, `nodup_eraseDups`: The first uses of keys.
* `exists_left_of_forall₂`, `exists_right_of_forall₂`: Items that belong together.
* `map_eq_map_of_forall₂`: Images of related lists.
* `exists_forall₂_of_square`, `forall₂_comp`: Relations that are followed item by item.
* `forall_of_forall₂`, `forall_of_rel`, `forall_of_namedRelated`: What goes over to everything
  related.
* `forall₂_iff_of_forall₂`: A relation of lists that depends on the first one only.
* `forall₂_imp_of_mem`, `rel_imp_of_mem`: A weaker relation on the members of a list, and
  on what an option holds.
-/

namespace DocumentMapper

section Search

variable {α κ : Type} [DecidableEq κ] {key : α → κ} {items : List α}

theorem mem_of_find?_key {k : κ} {a : α} (h : items.find? (fun x => decide (key x = k)) = some a) :
    a ∈ items ∧ key a = k :=
  ⟨List.mem_of_find?_eq_some h, of_decide_eq_true (List.find?_some h :)⟩

/-- Where keys differ, an item is found by its key. -/
theorem find?_of_nodup (h : (items.map key).Nodup) {a : α} (ha : a ∈ items) :
    items.find? (fun x => decide (key x = key a)) = some a := by
  cases hfound : items.find? (fun x => decide (key x = key a)) with
  | none =>
      have hne := List.find?_eq_none.mp hfound a ha
      exact absurd (decide_eq_true rfl) hne
  | some b =>
      rcases mem_of_find?_key hfound with ⟨hb, hkey⟩
      rw [List.inj_on_of_nodup_map h hb ha hkey]

theorem find?_key_eq_none {k : κ} :
    items.find? (fun x => decide (key x = k)) = none ↔ k ∉ items.map key := by
  rw [List.find?_eq_none]
  constructor
  · intro h hmem
    rcases List.mem_map.mp hmem with ⟨a, ha, hk⟩
    exact h a ha (decide_eq_true hk)
  · intro h a ha hk
    exact h (List.mem_map.mpr ⟨a, ha, of_decide_eq_true hk⟩)

theorem mem_of_lookup {fields : List (κ × α)} {k : κ} {a : α} (h : fields.lookup k = some a) :
    (k, a) ∈ fields := by
  rcases List.lookup_eq_some_iff.mp h with ⟨before, after, hfields, _⟩
  rw [hfields]
  exact List.mem_append_right _ List.mem_cons_self

/-- What is found from the end comes after everything else that passes. -/
theorem before_of_find?_reverse {R : α → α → Prop} (h : items.Pairwise R) {test : α → Bool} {a : α}
    (hfound : items.reverse.find? test = some a) {b : α} (hb : b ∈ items) (htest : test b = true) :
    b = a ∨ R b a := by
  rcases List.find?_eq_some_iff_append.mp hfound with ⟨_, later, earlier, hsplit, hlater⟩
  -- Reversed, what comes before the found item fails, and what comes behind it is related to it.
  have hreverse : items.reverse.Pairwise fun x y => R y x := List.pairwise_reverse.mpr h
  rw [hsplit] at hreverse
  have hmem : b ∈ later ++ a :: earlier := hsplit ▸ List.mem_reverse.mpr hb
  rcases List.mem_append.mp hmem with hb | hb
  · have hfails := hlater b hb
    rw [htest] at hfails
    cases hfails
  · rcases List.mem_cons.mp hb with rfl | hb
    · exact .inl rfl
    · exact .inr ((List.pairwise_cons.mp (List.pairwise_append.mp hreverse).2.1).1 b hb)

/-- In a list in strict order the last item that passes is the one that no other passing
    item comes after. -/
theorem find?_reverse_of_pairwise {R : α → α → Prop} (hasymm : ∀ a b, R a b → ¬ R b a)
    (h : items.Pairwise R) (test : α → Bool) {a : α} (ha : a ∈ items) (hpass : test a = true) :
    items.reverse.find? test = some a ↔ ∀ b ∈ items, test b = true → ¬ R a b := by
  constructor
  · intro hfound b hb htest hab
    rcases before_of_find?_reverse h hfound hb htest with rfl | hba
    · exact hasymm b b hab hab
    · exact hasymm a b hab hba
  · intro hlast
    cases hfound : items.reverse.find? test with
    | none => exact absurd hpass (List.find?_eq_none.mp hfound a (List.mem_reverse.mpr ha))
    | some b =>
        rcases before_of_find?_reverse h hfound ha hpass with rfl | hab
        · rfl
        · have hb : b ∈ items := List.mem_reverse.mp (List.mem_of_find?_eq_some hfound)
          exact absurd hab (hlast b hb (List.find?_some hfound))

end Search

section FirstUses

variable {α β : Type} [BEq β]

/-- Of things of one key only the first is kept, and so is the key. -/
theorem map_eraseDupsBy (f : α → β) (items : List α) :
    (items.eraseDupsBy fun a b => f a == f b).map f = (items.map f).eraseDups := by
  cases items with
  | nil => rfl
  | cons a items =>
      -- What is dropped behind the first item is decided by its key, before the keys are taken or
      -- after.
      have hfilter : (items.filter fun b => decide ((f b == f a) = false)).map f =
          (items.map f).filter fun k => !k == f a := by
        rw [List.filter_map]
        refine congrArg (List.map f) (List.filter_congr ?_)
        intro b _
        cases h : f b == f a <;> simp [h]
      rw [List.eraseDupsBy_cons, List.map_cons, List.map_cons, List.eraseDups_cons,
        map_eraseDupsBy, hfilter]
termination_by items.length
decreasing_by exact Nat.lt_succ_of_le (List.length_filter_le _ _)

end FirstUses

section Forall₂

variable {α β : Type} {R : α → β → Prop}

theorem exists_left_of_forall₂ {xs : List α} {ys : List β} (h : List.Forall₂ R xs ys) {y : β}
    (hy : y ∈ ys) : ∃ x ∈ xs, R x y := by
  induction h with
  | nil => cases hy
  | cons hxy _ ih =>
      rcases List.mem_cons.mp hy with rfl | hy
      · exact ⟨_, List.mem_cons_self, hxy⟩
      · rcases ih hy with ⟨x, hx, hR⟩
        exact ⟨x, List.mem_cons_of_mem _ hx, hR⟩

theorem exists_right_of_forall₂ {xs : List α} {ys : List β} (h : List.Forall₂ R xs ys) {x : α}
    (hx : x ∈ xs) : ∃ y ∈ ys, R x y := by
  rcases exists_left_of_forall₂ (List.Forall₂.flip h) hx with ⟨y, hy, hR⟩
  exact ⟨y, hy, hR⟩

/-- What agrees on related items agrees on the lists. -/
theorem map_eq_map_of_forall₂ {γ : Type} {f : α → γ} {g : β → γ} {xs : List α} {ys : List β}
    (h : List.Forall₂ R xs ys) (hfg : ∀ x y, R x y → f x = g y) : xs.map f = ys.map g := by
  induction h with
  | nil => rfl
  | cons hxy _ ih => rw [List.map_cons, List.map_cons, hfg _ _ hxy, ih]

theorem forall₂_imp_of_mem {S : α → β → Prop} {xs : List α} {ys : List β}
    (h : List.Forall₂ R xs ys) (himp : ∀ x ∈ xs, ∀ y, R x y → S x y) : List.Forall₂ S xs ys := by
  induction h with
  | nil => exact List.Forall₂.nil
  | cons hxy _ ih =>
      have hhead := himp _ List.mem_cons_self _ hxy
      exact List.Forall₂.cons hhead (ih fun x hx => himp x (List.mem_cons_of_mem _ hx))

/-- Where a relation between related items depends on the first item only, so does that
    between the lists. -/
theorem forall₂_iff_of_forall₂ {S : α → β → Prop} {P : α → Prop} {xs : List α} {ys : List β}
    (h : List.Forall₂ R xs ys) (hiff : ∀ x ∈ xs, ∀ y, R x y → (S x y ↔ P x)) :
    List.Forall₂ S xs ys ↔ ∀ x ∈ xs, P x := by
  induction h with
  | nil => exact iff_of_true List.Forall₂.nil (List.forall_mem_nil P)
  | cons hxy _ ih =>
      have hhead := hiff _ List.mem_cons_self _ hxy
      rw [List.forall₂_cons, List.forall_mem_cons, hhead,
        ih fun x hx => hiff x (List.mem_cons_of_mem _ hx)]

/-- A square of relations on items is one on lists. -/
theorem exists_forall₂_of_square {γ δ : Type} {S : α → γ → Prop} {T : β → δ → Prop}
    {R' : γ → δ → Prop} (hstep : ∀ {x y z}, R x y → T y z → ∃ w, S x w ∧ R' w z)
    {xs : List α} {ys : List β} (h : List.Forall₂ R xs ys) :
    ∀ {zs : List δ}, List.Forall₂ T ys zs →
      ∃ ws, List.Forall₂ S xs ws ∧ List.Forall₂ R' ws zs := by
  induction h with
  | nil =>
      intro zs hzs
      cases hzs
      exact ⟨[], .nil, .nil⟩
  | cons hxy _ ih =>
      -- The third list is taken apart along with the first two.
      intro zs hzs
      cases hzs with
      | cons hyz hzs =>
          rcases hstep hxy hyz with ⟨w, hS, hR'⟩
          rcases ih hzs with ⟨ws, hws, hzs'⟩
          exact ⟨w :: ws, .cons hS hws, .cons hR' hzs'⟩

/-- Two relations on items after one another are one on lists. -/
theorem forall₂_comp {γ : Type} {T : β → γ → Prop} {S : α → γ → Prop}
    (hstep : ∀ {x y z}, R x y → T y z → S x z) {xs : List α} {ys : List β}
    (h : List.Forall₂ R xs ys) :
    ∀ {zs : List γ}, List.Forall₂ T ys zs → List.Forall₂ S xs zs := by
  induction h with
  | nil =>
      intro zs hzs
      cases hzs
      exact .nil
  | cons hxy _ ih =>
      intro zs hzs
      cases hzs with
      | cons hyz hzs => exact .cons (hstep hxy hyz) (ih hzs)

/-- Pairs with the same first components whose second ones are related, one by one. -/
abbrev NamedRelated {κ : Type} (R : α → β → Prop) : List (κ × α) → List (κ × β) → Prop :=
  List.Forall₂ fun m m' => m.1 = m'.1 ∧ R m.2 m'.2

theorem map_fst_eq_of_namedRelated {κ : Type} {ms : List (κ × α)} {ms' : List (κ × β)}
    (h : NamedRelated R ms ms') : ms.map Prod.fst = ms'.map Prod.fst :=
  map_eq_map_of_forall₂ h fun _ _ hm => hm.1

/-- What is related to something with a property has a property of its own. -/
theorem forall_of_rel {R : α → β → Prop} {P : β → Prop} {x : Option α} {y : Option β}
    (hrel : Option.Rel R x y) (h : ∀ a ∈ x, ∀ b, R a b → P b) : ∀ b ∈ y, P b := by
  intro b hb
  cases hrel with
  | none => cases hb
  | some hR =>
      cases hb
      exact h _ rfl _ hR

theorem forall_of_forall₂ {R : α → β → Prop} {P : β → Prop} {as : List α} {bs : List β}
    (hrel : List.Forall₂ R as bs) (h : ∀ a ∈ as, ∀ b, R a b → P b) : ∀ b ∈ bs, P b := by
  intro b hb
  rcases exists_left_of_forall₂ hrel hb with ⟨a, ha, hR⟩
  exact h a ha b hR

theorem forall_of_namedRelated {κ : Type} {R : α → β → Prop} {P : β → Prop}
    {ms : List (κ × α)} {ms' : List (κ × β)} (hrel : NamedRelated R ms ms')
    (h : ∀ m ∈ ms, ∀ b, R m.2 b → P b) : ∀ m ∈ ms', P m.2 :=
  forall_of_forall₂ hrel fun m hm m' hR => h m hm m'.2 hR.2

theorem isSome_eq_of_rel {R : α → β → Prop} {x : Option α} {y : Option β} (h : Option.Rel R x y) :
    x.isSome = y.isSome := by
  cases h <;> rfl

theorem eq_none_of_rel {R : α → β → Prop} {x : Option α} {y : Option β} (h : Option.Rel R x y)
    (hx : x = none) : y = none := by
  cases h with
  | none => rfl
  | some _ => cases hx

theorem rel_same {R : α → α → Prop} {x : Option α} (h : ∀ a ∈ x, R a a) : Option.Rel R x x := by
  cases x with
  | none => exact Option.Rel.none
  | some a => exact Option.Rel.some (h a rfl)

theorem namedRelated_same {κ : Type} {R : α → α → Prop} {ms : List (κ × α)}
    (h : ∀ m ∈ ms, R m.2 m.2) : NamedRelated R ms ms :=
  List.forall₂_same.mpr fun m hm => ⟨rfl, h m hm⟩

theorem rel_getElem? {R : α → β → Prop} {as : List α} {bs : List β} (h : List.Forall₂ R as bs) :
    ∀ i : Nat, Option.Rel R as[i]? bs[i]? := by
  induction h with
  | nil => exact fun _ => Option.Rel.none
  | cons hab _ ih =>
      intro i
      cases i with
      | zero => exact Option.Rel.some hab
      | succ i => exact ih i

theorem bind_eq_of_rel {γ : Type} {R : α → β → Prop} {x : Option α} {y : Option β}
    {f : α → Option γ} {g : β → Option γ} (h : Option.Rel R x y)
    (hfg : ∀ a b, R a b → f a = g b) : x.bind f = y.bind g := by
  cases h with
  | none => rfl
  | some hab => exact hfg _ _ hab

theorem rel_imp_of_mem {S : α → β → Prop} {x : Option α} {y : Option β} (h : Option.Rel R x y)
    (himp : ∀ a ∈ x, ∀ b, R a b → S a b) : Option.Rel S x y := by
  cases h with
  | none => exact Option.Rel.none
  | some hab => exact Option.Rel.some (himp _ rfl _ hab)

end Forall₂

end DocumentMapper
