import DocumentMapper.Proofs.Data.Sort
import Mathlib.Data.List.Induction

/-!
# First and last uses of a key

Of the items of a list several may have one key. Keeping the last of them and keeping the
first of them both leave a list in which every key stands once, but not the same list. A
comparison by one key after another looks at the first uses: what comes later under a key
that has been looked at finds nothing left to decide.

## Main definitions

* `keepLast`, `keepFirst`: The last and the first items of their keys.

## Theorems

* `nodup_keepLast`, `keepLast_of_nodup`: Every key stands once.
* `lexicographic_keepFirst`: First uses decide a comparison.
-/

namespace DocumentMapper

variable {α κ : Type} [DecidableEq κ]

/-- The items whose key does not come again. -/
def keepLast (key : α → κ) : List α → List α
  | [] => []
  | x :: rest => if key x ∈ rest.map key then keepLast key rest else x :: keepLast key rest

/-- The items whose key has not come before. -/
def keepFirst (key : α → κ) (items : List α) : List α :=
  (keepLast key items.reverse).reverse

variable {key : α → κ}

theorem keepLast_cons (x : α) (rest : List α) :
    keepLast key (x :: rest) =
      if key x ∈ rest.map key then keepLast key rest else x :: keepLast key rest :=
  rfl

theorem keepLast_sublist (items : List α) : (keepLast key items).Sublist items := by
  induction items with
  | nil => exact List.Sublist.slnil
  | cons x rest ih =>
      rw [keepLast_cons]
      split
      · exact ih.cons x
      · exact ih.cons_cons x

theorem mem_map_keepLast {k : κ} {items : List α} :
    k ∈ (keepLast key items).map key ↔ k ∈ items.map key := by
  induction items with
  | nil => exact Iff.rfl
  | cons x rest ih =>
      rw [keepLast_cons, List.map_cons, List.mem_cons, ← ih]
      split
      next hmem =>
        -- A dropped key comes again behind, so it is not lost.
        constructor
        · exact .inr
        · rintro (rfl | h)
          · exact ih.mpr hmem
          · exact h
      next => rw [List.map_cons, List.mem_cons]

theorem nodup_keepLast (items : List α) : ((keepLast key items).map key).Nodup := by
  induction items with
  | nil => exact List.nodup_nil
  | cons x rest ih =>
      rw [keepLast_cons]
      split
      next => exact ih
      next hnew =>
        rw [List.map_cons, List.nodup_cons]
        exact ⟨fun h => hnew (mem_map_keepLast.mp h), ih⟩

/-- Where no key comes twice nothing is dropped. -/
theorem keepLast_of_nodup {items : List α} (h : (items.map key).Nodup) :
    keepLast key items = items := by
  induction items with
  | nil => rfl
  | cons x rest ih =>
      rw [List.map_cons, List.nodup_cons] at h
      rw [keepLast_cons, if_neg h.1, ih h.2]

theorem keepLast_map {β : Type} (f : β → α) (items : List β) :
    keepLast key (items.map f) = (keepLast (fun x => key (f x)) items).map f := by
  induction items with
  | nil => rfl
  | cons x rest ih =>
      have hkeys : (rest.map f).map key = rest.map fun x => key (f x) := List.map_map
      rw [List.map_cons, keepLast_cons, keepLast_cons, hkeys, ih]
      split <;> rfl

/-- A last item is kept if its key is new. -/
theorem keepFirst_concat (items : List α) (x : α) :
    keepFirst key (items ++ [x]) =
      if key x ∈ items.map key then keepFirst key items else keepFirst key items ++ [x] := by
  have hmem : key x ∈ items.reverse.map key ↔ key x ∈ items.map key := by
    rw [List.map_reverse, List.mem_reverse]
  unfold keepFirst
  simp only [List.reverse_concat, keepLast_cons, hmem]
  split
  · rfl
  · rw [List.reverse_cons]

theorem mem_map_keepFirst {k : κ} {items : List α} :
    k ∈ (keepFirst key items).map key ↔ k ∈ items.map key := by
  rw [keepFirst, List.map_reverse, List.mem_reverse, mem_map_keepLast, List.map_reverse,
    List.mem_reverse]

theorem nodup_keepFirst (items : List α) : ((keepFirst key items).map key).Nodup := by
  rw [keepFirst, List.map_reverse]
  exact List.nodup_reverse.mpr (nodup_keepLast _)

theorem lexicographic_eq_eq {ρ : Type} {cmp : α → ρ → ρ → Ordering} {ks : List α} {a b : ρ}
    (h : lexicographic cmp ks a b = .eq) : ∀ k ∈ ks, cmp k a b = .eq := by
  induction ks with
  | nil => exact List.forall_mem_nil _
  | cons k ks ih =>
      rw [lexicographic, compareLex, Ordering.then_eq_eq] at h
      intro k' hk'
      rcases List.mem_cons.mp hk' with rfl | hk'
      · exact h.1
      · exact ih h.2 k' hk'

/-- If items of one key find the same things equal, a comparison by all items is one by the
    first of every key. -/
theorem lexicographic_keepFirst {ρ : Type} {cmp : α → ρ → ρ → Ordering} {a b : ρ}
    (h : ∀ x y, key x = key y → cmp x a b = .eq → cmp y a b = .eq) (items : List α) :
    lexicographic cmp (keepFirst key items) a b = lexicographic cmp items a b := by
  induction items using List.reverseRecOn with
  | nil => rfl
  | append_singleton items x ih =>
      rw [keepFirst_concat, lexicographic_concat]
      split
      next hmem =>
        -- The item can only decide what an earlier one of its key has left open.
        rcases List.mem_map.mp hmem with ⟨y, hy, hkey⟩
        rw [ih]
        cases hitems : lexicographic cmp items a b with
        | eq => rw [h y x hkey (lexicographic_eq_eq hitems y hy), Ordering.then_eq]
        | lt => rfl
        | gt => rfl
      next => rw [lexicographic_concat, ih]

end DocumentMapper
