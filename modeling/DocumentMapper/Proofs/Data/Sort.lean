import Mathlib.Data.List.Sort

/-!
# Stable sorting by comparisons

A comparison may find different items equal, and a stable sort then keeps them in the
order in which it found them. That, and being sorted, determines the result: two sorted
lists are the same if they have the same items of every class of equal ones, in the same
order (`eq_of_classes`). All that is needed about sorting follows from this. Leaving
items out can be done before or after, and sorting twice is sorting once by both
comparisons, the later one first.

## Main definitions

* `sortBy`, `SortedBy`: A list sorted by a comparison, and what it is to be sorted.
* `isSame`: The classes of equal items.
* `lexicographic`: The comparison by several keys, the first one first.

## Theorems

* `eq_of_classes`: What determines a sorted list.
* `filter_sortBy`: Leaving out and sorting can be exchanged.
* `sortBy_congr`: The comparison matters on the items only.
* `sortBy_sortBy`: Sorting twice is sorting once by both.
* `lexicographic_append`: More keys refine a comparison.
-/

namespace DocumentMapper

section Sorting

variable {α : Type}

/-- A list sorted by a comparison. Items that are equal in it keep their order. -/
def sortBy (cmp : α → α → Ordering) (items : List α) : List α :=
  items.mergeSort fun a b => (cmp a b).isLE

/-- A list in which no item comes before a smaller one. -/
def SortedBy (cmp : α → α → Ordering) (items : List α) : Prop :=
  items.Pairwise fun a b => (cmp a b).isLE = true

/-- Whether an item is equal to another one in a comparison. -/
def isSame (cmp : α → α → Ordering) (a b : α) : Bool :=
  cmp a b == .eq

variable {cmp cmp' : α → α → Ordering}

theorem isSame_iff {a b : α} : isSame cmp a b = true ↔ cmp a b = .eq :=
  beq_iff_eq

theorem mem_sortBy {a : α} {items : List α} : a ∈ sortBy cmp items ↔ a ∈ items :=
  List.mem_mergeSort

theorem sortBy_of_sorted {items : List α} (h : SortedBy cmp items) : sortBy cmp items = items :=
  List.mergeSort_of_pairwise h

section

variable [Std.TransCmp cmp] [Std.TransCmp cmp']

theorem isLE_trans (a b c : α) (h : (cmp a b).isLE = true) (h' : (cmp b c).isLE = true) :
    (cmp a c).isLE = true :=
  Std.TransCmp.isLE_trans h h'

theorem isLE_total (a b : α) : ((cmp a b).isLE || (cmp b a).isLE) = true := by
  have hswap : cmp a b = (cmp b a).swap := Std.OrientedCmp.eq_swap
  rw [hswap]
  cases cmp b a <;> rfl

theorem sorted_sortBy (cmp : α → α → Ordering) [Std.TransCmp cmp] (items : List α) :
    SortedBy cmp (sortBy cmp items) :=
  List.pairwise_mergeSort isLE_trans isLE_total items

theorem SortedBy.head_isLE {x y : α} {xs : List α} (h : SortedBy cmp (x :: xs))
    (hy : y ∈ x :: xs) : (cmp x y).isLE = true := by
  rcases List.mem_cons.mp hy with rfl | hy
  · have hself : cmp y y = .eq := Std.ReflCmp.compare_self
    rw [hself]
    rfl
  · exact List.rel_of_pairwise_cons h hy

theorem isSame_self (a : α) : isSame cmp a a = true :=
  isSame_iff.mpr Std.ReflCmp.compare_self

/-- An item is among the items of its own class. -/
theorem mem_class (cmp : α → α → Ordering) [Std.TransCmp cmp] {a : α} {xs : List α} :
    a ∈ xs.filter (isSame cmp a) ↔ a ∈ xs := by
  rw [List.mem_filter]
  exact ⟨fun h => h.1, fun h => ⟨h, isSame_self a⟩⟩

/-- Two items of one class are equal. -/
theorem eq_of_isSame {a b c : α} (hb : isSame cmp a b = true) (hc : isSame cmp a c = true) :
    cmp b c = .eq := by
  have hba : cmp b a = .eq := Std.OrientedCmp.eq_symm (isSame_iff.mp hb)
  rw [Std.TransCmp.congr_left hba]
  exact isSame_iff.mp hc

/-- A sorted list is determined by its classes of equal items, each in its order. -/
theorem eq_of_classes (cmp : α → α → Ordering) [Std.TransCmp cmp] {xs : List α} :
    ∀ {ys : List α}, SortedBy cmp xs → SortedBy cmp ys →
      (∀ a, xs.filter (isSame cmp a) = ys.filter (isSame cmp a)) → xs = ys := by
  induction xs with
  | nil =>
      intro ys _ _ h
      refine (List.eq_nil_iff_forall_not_mem.mpr ?_).symm
      intro y hy
      rw [← mem_class cmp, ← h y] at hy
      cases hy
  | cons x xs ih =>
      intro ys hx hy h
      -- What is in a list is in a class of it, and the classes are the same.
      have hmem : ∀ a, a ∈ x :: xs ↔ a ∈ ys := by
        intro a
        rw [← mem_class cmp, h a, mem_class]
      cases ys with
      | nil => cases (hmem x).mp List.mem_cons_self
      | cons y ys =>
          -- Each head is in the other list, so neither is smaller.
          have hle := hx.head_isLE ((hmem y).mpr List.mem_cons_self)
          have hge := hy.head_isLE ((hmem x).mp List.mem_cons_self)
          have heq : cmp x y = .eq := Std.OrientedCmp.isLE_antisymm hle hge
          have hhead := h x
          rw [List.filter_cons_of_pos (isSame_self x),
            List.filter_cons_of_pos (isSame_iff.mpr heq)] at hhead
          rcases List.cons.inj hhead with ⟨rfl, _⟩
          refine congrArg (x :: ·) (ih hx.tail hy.tail ?_)
          -- Behind the heads the classes are still the same: both lose the head, or neither does.
          intro a
          have hclass := h a
          by_cases ha : isSame cmp a x = true
          · rw [List.filter_cons_of_pos ha, List.filter_cons_of_pos ha] at hclass
            exact (List.cons.inj hclass).2
          · rw [List.filter_cons_of_neg ha, List.filter_cons_of_neg ha] at hclass
            exact hclass

/-- Items that are all equal keep their order. -/
theorem filter_sortBy_of_equal {p : α → Bool} {items : List α}
    (h : ∀ a ∈ items, ∀ b ∈ items, p a = true → p b = true → (cmp a b).isLE = true) :
    (sortBy cmp items).filter p = items.filter p := by
  have hsorted : SortedBy cmp (items.filter p) := by
    refine List.pairwise_of_forall_mem_list ?_
    intro a ha b hb
    rw [List.mem_filter] at ha hb
    exact h a ha.1 b hb.1 ha.2 hb.2
  have hsub : (items.filter p).Sublist (sortBy cmp items) :=
    List.sublist_mergeSort isLE_trans isLE_total hsorted List.filter_sublist
  have hfilter := hsub.filter p
  rw [List.filter_filter] at hfilter
  simp only [Bool.and_self] at hfilter
  -- The sublist is as long as the list.
  refine (hfilter.eq_of_length ?_).symm
  exact ((List.mergeSort_perm items _).filter p).length_eq.symm

/-- A class is in the order in which it was found. -/
theorem filter_class_sortBy (a : α) (items : List α) :
    (sortBy cmp items).filter (isSame cmp a) = items.filter (isSame cmp a) := by
  refine filter_sortBy_of_equal ?_
  intro b _ c _ hb hc
  rw [eq_of_isSame hb hc]
  rfl

/-- Items can be left out before or after sorting. -/
theorem filter_sortBy (p : α → Bool) (items : List α) :
    (sortBy cmp items).filter p = sortBy cmp (items.filter p) := by
  refine eq_of_classes cmp ((sorted_sortBy cmp items).filter p) (sorted_sortBy cmp _) ?_
  intro a
  rw [filter_class_sortBy, List.filter_comm, filter_class_sortBy, List.filter_comm]

/-- A comparison matters on the items only. -/
theorem sortBy_congr {items : List α} (h : ∀ a ∈ items, ∀ b ∈ items, cmp a b = cmp' a b) :
    sortBy cmp items = sortBy cmp' items := by
  refine eq_of_classes cmp (sorted_sortBy cmp items) ?_ ?_
  · refine (sorted_sortBy cmp' items).imp_of_mem ?_
    intro a b ha hb hle
    rw [h a (mem_sortBy.mp ha) b (mem_sortBy.mp hb)]
    exact hle
  · intro a
    rw [filter_class_sortBy]
    refine (filter_sortBy_of_equal ?_).symm
    intro b hb c hc hab hac
    rw [← h b hb c hc, eq_of_isSame hab hac]
    rfl

/-- Sorting twice is sorting once by both comparisons, the later one first. -/
theorem sortBy_sortBy (items : List α) :
    sortBy cmp' (sortBy cmp items) = sortBy (compareLex cmp' cmp) items := by
  refine eq_of_classes cmp' (sorted_sortBy cmp' _) ?_ ?_
  · refine (sorted_sortBy (compareLex cmp' cmp) items).imp ?_
    intro a b hle
    exact (Ordering.isLE_then_iff_and.mp hle).1
  · intro a
    rw [filter_class_sortBy, filter_sortBy, filter_sortBy]
    -- Within a class of the later comparison only the earlier one decides.
    refine sortBy_congr ?_
    intro b hb c hc
    rw [compareLex, eq_of_isSame (List.mem_filter.mp hb).2 (List.mem_filter.mp hc).2]
    rfl

end

end Sorting

section Keys

variable {α κ : Type}

/-- The comparison by several keys, of which an earlier one counts more. -/
def lexicographic (cmp : κ → α → α → Ordering) : List κ → α → α → Ordering
  | [] => fun _ _ => .eq
  | k :: ks => compareLex (cmp k) (lexicographic cmp ks)

variable {cmp : κ → α → α → Ordering}

instance transCmp_lexicographic [∀ k, Std.TransCmp (cmp k)] (ks : List κ) :
    Std.TransCmp (lexicographic cmp ks) := by
  induction ks with
  | nil => exact { eq_swap := rfl, isLE_trans := fun h _ => h }
  | cons k ks ih => exact inferInstanceAs (Std.TransCmp (compareLex _ _))

/-- Further keys decide where the keys before them are the same. -/
theorem lexicographic_append (ks ls : List κ) :
    lexicographic cmp (ks ++ ls) = compareLex (lexicographic cmp ks) (lexicographic cmp ls) := by
  induction ks with
  | nil => rfl
  | cons k ks ih =>
      funext a b
      rw [List.cons_append, lexicographic, ih, lexicographic, compareLex, compareLex, compareLex,
        compareLex, Ordering.then_assoc]

/-- A last key decides what all others leave open. -/
theorem lexicographic_concat (ks : List κ) (k : κ) (a b : α) :
    lexicographic cmp (ks ++ [k]) a b = (lexicographic cmp ks a b).then (cmp k a b) := by
  rw [lexicographic_append, compareLex, lexicographic, compareLex, lexicographic, Ordering.then_eq]

/-- Without keys nothing is sorted. -/
theorem sortBy_nil (items : List α) : sortBy (lexicographic cmp []) items = items :=
  sortBy_of_sorted (List.pairwise_of_forall fun _ _ => rfl)

/-- Keys that agree on the items sort them in the same way. -/
theorem lexicographic_congr {κ' : Type} {cmp' : κ' → α → α → Ordering} {ks : List κ}
    {ks' : List κ'} {a b : α} (h : List.Forall₂ (fun k k' => cmp k a b = cmp' k' a b) ks ks') :
    lexicographic cmp ks a b = lexicographic cmp' ks' a b := by
  induction h with
  | nil => rfl
  | cons hk _ ih => rw [lexicographic, lexicographic, compareLex, compareLex, hk, ih]

end Keys

end DocumentMapper
