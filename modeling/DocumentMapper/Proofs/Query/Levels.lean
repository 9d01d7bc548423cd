import DocumentMapper.Proofs.Query.Predicate

/-!
# Negations level by level

A condition document keeps the tests of a field apart from those of all other fields,
and orders them by the number of negations around them: one level of operators, beneath
it what the first `$not` denies, beneath that what the next one denies. Which negation
of the predicate a test came from is lost. `Predicate.levels` computes this layout from
the predicate alone, and `Predicate.fieldwise` is the truth it has.

The layout keeps the meaning of some predicates and not of others. Two tests that are
joined by a conjunction may share a level only where the shallower of the two stands
under an even number of negations within the conjunction, since otherwise the document
denies their conjunction where the predicate denies each of them. And what a negation
covers has to be about a single field, unless the negation is itself denied right away.
A predicate that keeps these rules is `Faithful`, and `Faithful.fieldwise_eq` says that
its layout means what it means.

## Main definitions

* `joinLevels`, `deepen`, `sink`, `alternation`: Levels, one list item a level.
* `Predicate.levels`: The atoms of a field by the negations around them.
* `Predicate.fieldwise`: The truth of the levels of all fields.
* `Predicate.occurrences`: All atoms with their depths.
* `Predicate.Compatible`, `Predicate.Faithful`: Predicates that the layout keeps.

## Theorems

* `mem_levels`: A level holds the atoms that occur at its depth.
* `fieldwise_eq_true`: The levels of every field are true.
* `alternation_join`: Compatible levels are true together if each is.
* `Faithful.fieldwise_eq`: The layout of a faithful predicate means the same.
-/

namespace DocumentMapper

section Levels

variable {α β : Type}

/-- Two lists of levels put together, level by level. -/
def joinLevels (op : α → α → α) : List α → List α → List α
  | [], ys => ys
  | xs, [] => xs
  | x :: xs, y :: ys => op x y :: joinLevels op xs ys

/-- The levels one deeper, under a level without content. -/
def deepen (empty : α) : List α → List α
  | [] => []
  | x :: xs => empty :: x :: xs

/-- The levels a number of times deeper. -/
def sink (empty : α) : Nat → List α → List α
  | 0, xs => xs
  | depth + 1, xs => deepen empty (sink empty depth xs)

/-- Levels of which the deepest has content. -/
def EndsWithContent : List (List α) → Prop
  | [] => True
  | [x] => x ≠ []
  | _ :: y :: rest => EndsWithContent (y :: rest)

/-- The truth of levels of which each denies the next. -/
def alternation : List Bool → Bool
  | [] => true
  | [x] => x
  | x :: y :: rest => x && !alternation (y :: rest)

@[simp] theorem joinLevels_nil (op : α → α → α) (xs : List α) : joinLevels op xs [] = xs := by
  cases xs <;> rfl

theorem joinLevels_cons (op : α → α → α) (x y : α) (xs ys : List α) :
    joinLevels op (x :: xs) (y :: ys) = op x y :: joinLevels op xs ys :=
  rfl

theorem deepen_cons (empty x : α) (xs : List α) : deepen empty (x :: xs) = empty :: x :: xs :=
  rfl

theorem sink_succ (empty : α) (depth : Nat) (xs : List α) :
    sink empty (depth + 1) xs = deepen empty (sink empty depth xs) :=
  rfl

theorem alternation_singleton (x : Bool) : alternation [x] = x :=
  rfl

theorem alternation_cons_cons (x y : Bool) (rest : List Bool) :
    alternation (x :: y :: rest) = (x && !alternation (y :: rest)) :=
  rfl

theorem map_joinLevels {op : α → α → α} {op' : β → β → β} (f : α → β)
    (hf : ∀ x y, f (op x y) = op' (f x) (f y)) (xs ys : List α) :
    (joinLevels op xs ys).map f = joinLevels op' (xs.map f) (ys.map f) := by
  fun_induction joinLevels op xs ys with
  | case1 ys => rfl
  | case2 xs => rw [List.map_nil, joinLevels_nil]
  | case3 x xs y ys ih => rw [List.map_cons, hf, ih, List.map_cons, List.map_cons, joinLevels_cons]

theorem map_deepen {empty : α} {empty' : β} (f : α → β) (hf : f empty = empty') (xs : List α) :
    (deepen empty xs).map f = deepen empty' (xs.map f) := by
  cases xs with
  | nil => rfl
  | cons x xs => rw [deepen_cons, List.map_cons, hf, List.map_cons, deepen_cons]

theorem joinLevels_comm {op : α → α → α} (hop : ∀ x y, op x y = op y x) (xs ys : List α) :
    joinLevels op xs ys = joinLevels op ys xs := by
  fun_induction joinLevels op xs ys with
  | case1 ys => rw [joinLevels_nil]
  | case2 xs => rfl
  | case3 x xs y ys ih => rw [joinLevels_cons, hop, ih]

theorem joinLevels_assoc {op : α → α → α} (hop : ∀ x y z, op (op x y) z = op x (op y z))
    (xs : List α) : ∀ ys zs,
      joinLevels op (joinLevels op xs ys) zs = joinLevels op xs (joinLevels op ys zs) := by
  induction xs with
  | nil =>
      intro ys zs
      rfl
  | cons x xs ih =>
      intro ys zs
      cases ys with
      | nil => rfl
      | cons y ys =>
          cases zs with
          | nil => rfl
          | cons z zs =>
              rw [joinLevels_cons, joinLevels_cons, joinLevels_cons, joinLevels_cons, hop, ih]

/-- Going one deeper and joining can be exchanged. -/
theorem deepen_joinLevels {op : α → α → α} {empty : α} (h : op empty empty = empty)
    (xs ys : List α) :
    deepen empty (joinLevels op xs ys) = joinLevels op (deepen empty xs) (deepen empty ys) := by
  cases xs with
  | nil => rfl
  | cons x xs =>
      cases ys with
      | nil => rfl
      | cons y ys =>
          rw [deepen_cons, deepen_cons, joinLevels_cons, deepen_cons, joinLevels_cons, h,
            joinLevels_cons]

theorem sink_nil (empty : α) (depth : Nat) : sink empty depth [] = [] := by
  induction depth with
  | zero => rfl
  | succ depth ih =>
      rw [sink_succ, ih]
      rfl

theorem sink_ne_nil (empty : α) (depth : Nat) {xs : List α} (h : xs ≠ []) :
    sink empty depth xs ≠ [] := by
  induction depth with
  | zero => exact h
  | succ depth ih =>
      rw [sink_succ]
      cases hsink : sink empty depth xs with
      | nil => exact absurd hsink ih
      | cons y ys => exact List.cons_ne_nil _ _

theorem sink_deepen (empty : α) (depth : Nat) (xs : List α) :
    sink empty depth (deepen empty xs) = sink empty (depth + 1) xs := by
  induction depth with
  | zero => rfl
  | succ depth ih =>
      rw [sink_succ, ih]
      rfl

theorem sink_joinLevels {op : α → α → α} {empty : α} (h : op empty empty = empty) (depth : Nat)
    (xs ys : List α) :
    sink empty depth (joinLevels op xs ys) =
      joinLevels op (sink empty depth xs) (sink empty depth ys) := by
  induction depth with
  | zero => rfl
  | succ depth ih => rw [sink_succ, ih, deepen_joinLevels h, sink_succ, sink_succ]

theorem alternation_deepen {xs : List Bool} (h : xs ≠ []) :
    alternation (deepen true xs) = !alternation xs := by
  cases xs with
  | nil => exact absurd rfl h
  | cons x xs => rw [deepen_cons, alternation_cons_cons, Bool.true_and]

/-- Two negations with nothing between them cancel. -/
theorem alternation_deepen_deepen (xs : List Bool) :
    alternation (deepen true (deepen true xs)) = alternation xs := by
  cases xs with
  | nil => rfl
  | cons x xs =>
      rw [alternation_deepen (by rw [deepen_cons]; exact List.cons_ne_nil _ _),
        alternation_deepen (List.cons_ne_nil _ _), Bool.not_not]

/-- A single level is joined as a conjunction. -/
theorem alternation_join_single (x : Bool) (ys : List Bool) :
    alternation (joinLevels and [x] ys) = (x && alternation ys) := by
  cases ys with
  | nil =>
      rw [joinLevels_nil, alternation_singleton]
      exact (Bool.and_true x).symm
  | cons y ys =>
      cases ys with
      | nil => rfl
      | cons z zs =>
          rw [joinLevels_cons, alternation_cons_cons y]
          exact Bool.and_assoc x y _

/-- What stands beneath a level that is false makes no difference. -/
theorem alternation_of_false {xs : List Bool} :
    ∀ {ys : List Bool} {depth : Nat}, xs[depth]? = some false → ys[depth]? = some false →
      xs.take depth = ys.take depth → alternation xs = alternation ys := by
  -- A false level decides, whatever is beneath it.
  have hfalse : ∀ zs : List Bool, zs[0]? = some false → alternation zs = false := by
    intro zs hz
    match zs, hz with
    | [false], _ => rfl
    | false :: z :: zs, _ => rfl
  induction xs with
  | nil =>
      intro ys depth hx
      cases hx
  | cons x xs ih =>
      intro ys depth hx hy htake
      cases depth with
      | zero => rw [hfalse _ hx, hfalse _ hy]
      | succ depth =>
          cases ys with
          | nil => cases hy
          | cons y ys =>
              rw [List.take_succ_cons, List.take_succ_cons] at htake
              rcases List.cons.inj htake with ⟨rfl, htail⟩
              rw [List.getElem?_cons_succ] at hx hy
              have hrest := ih hx hy htail
              match xs, ys, hx, hy with
              | a :: as, b :: bs, _, _ => rw [alternation_cons_cons, alternation_cons_cons, hrest]

theorem getD_joinLevels (xs : List (List α)) :
    ∀ (ys : List (List α)) (depth : Nat),
      (joinLevels (· ++ ·) xs ys).getD depth [] = xs.getD depth [] ++ ys.getD depth [] := by
  induction xs with
  | nil =>
      intro ys depth
      rw [List.getD_nil, List.nil_append]
      rfl
  | cons x xs ih =>
      intro ys depth
      cases ys with
      | nil => rw [joinLevels_nil, List.getD_nil, List.append_nil]
      | cons y ys =>
          rw [joinLevels_cons]
          cases depth with
          | zero => rfl
          | succ depth => exact ih ys depth

theorem getD_deepen_zero (xs : List (List α)) : (deepen [] xs).getD 0 [] = [] := by
  cases xs <;> rfl

theorem getD_deepen_succ (xs : List (List α)) (depth : Nat) :
    (deepen [] xs).getD (depth + 1) [] = xs.getD depth [] := by
  cases xs <;> rfl

theorem endsWithContent_deepen {xs : List (List α)} (h : EndsWithContent xs) :
    EndsWithContent (deepen [] xs) := by
  cases xs with
  | nil => exact h
  | cons x xs => exact h

theorem endsWithContent_join {xs : List (List α)} (hx : EndsWithContent xs) :
    ∀ {ys : List (List α)}, EndsWithContent ys → EndsWithContent (joinLevels (· ++ ·) xs ys) := by
  induction xs with
  | nil => exact fun hy => hy
  | cons x xs ih =>
      intro ys hy
      -- The deeper of the two lists ends the joined one; at equal depth both have content.
      match xs, ys, hx, hy with
      | xs, [], hx, _ => exact hx
      | [], [y], hx, _ =>
          intro h
          exact hx (List.append_eq_nil_iff.mp h).1
      | [], y :: z :: ys, _, hy => exact hy
      | a :: as, [y], hx, _ => exact hx
      | a :: as, y :: z :: ys, hx, hy =>
          have hrest := @ih hx (z :: ys) hy
          exact hrest

/-- Some level has content if there are any. -/
theorem exists_content {xs : List (List α)} (h : EndsWithContent xs) (hne : xs ≠ []) :
    ∃ depth a, a ∈ xs.getD depth [] := by
  induction xs with
  | nil => exact absurd rfl hne
  | cons x xs ih =>
      cases xs with
      | nil =>
          rcases List.exists_mem_of_ne_nil x h with ⟨a, ha⟩
          exact ⟨0, a, ha⟩
      | cons y ys =>
          rcases ih h (List.cons_ne_nil y ys) with ⟨depth, a, ha⟩
          exact ⟨depth + 1, a, ha⟩

end Levels

namespace Predicate

/-- The atoms of a field by the number of negations around them. -/
def levels (field : String) : Predicate → List (List Atom)
  | true => []
  | atom a => if a.field = field then [[a]] else []
  | and p q => joinLevels (· ++ ·) (p.levels field) (q.levels field)
  | not p => deepen [] (p.levels field)

/-- The truth of every level of a field. -/
def levelTruths (t : Assignment) (field : String) (p : Predicate) : List Bool :=
  (p.levels field).map fun level => level.all t.holds

/-- The truth that a predicate has if its negations are understood field by field and
    level by level. -/
def fieldwise (t : Assignment) (p : Predicate) : Bool :=
  p.fields.all fun field => alternation (p.levelTruths t field)

/-- The atoms with the number of negations around them. -/
def occurrences : Predicate → List (Nat × Atom)
  | true => []
  | atom a => [(0, a)]
  | and p q => p.occurrences ++ q.occurrences
  | not p => p.occurrences.map fun x => (x.1 + 1, x.2)

/-- Of two atoms of one field on the two sides of a conjunction, the shallower one
    stands under an even number of negations. -/
def Compatible (p q : Predicate) : Prop :=
  ∀ x ∈ p.occurrences, ∀ y ∈ q.occurrences, x.2.field = y.2.field → min x.1 y.1 % 2 = 0

/-- The predicates that mean the same field by field. A negation is about one field, or
    is denied itself. -/
def Faithful : Predicate → Prop
  | true => True
  | atom _ => True
  | and p q => p.Faithful ∧ q.Faithful ∧ p.Compatible q
  | not (not p) => p.Faithful
  | not p => p.Faithful ∧ ∃ field, p.fields ≠ [] ∧ ∀ other ∈ p.fields, other = field

section

variable {t : Assignment} {field : String} {p q : Predicate}

theorem atoms_eq (p : Predicate) : p.atoms = p.occurrences.map Prod.snd := by
  induction p with
  | true => rfl
  | atom a => rfl
  | and p q ihp ihq =>
      change p.atoms ++ q.atoms = (p.occurrences ++ q.occurrences).map Prod.snd
      rw [List.map_append, ihp, ihq]
  | not p ih =>
      change p.atoms = (p.occurrences.map fun x => (x.1 + 1, x.2)).map Prod.snd
      rw [List.map_map, ih]
      rfl

theorem mem_fields_of_mem {x : Nat × Atom} (h : x ∈ p.occurrences) : x.2.field ∈ p.fields := by
  rw [fields, atoms_eq]
  exact List.mem_map_of_mem (List.mem_map_of_mem h)

theorem exists_of_mem_fields (h : field ∈ p.fields) : ∃ x ∈ p.occurrences, x.2.field = field := by
  rw [fields, atoms_eq, List.map_map] at h
  exact List.mem_map.mp h

@[simp] theorem levelTruths_true : levelTruths t field true = [] := by
  rfl

theorem levelTruths_atom (a : Atom) :
    levelTruths t field (atom a) = if a.field = field then [t.holds a] else [] := by
  change (if a.field = field then [[a]] else []).map (fun level => level.all t.holds) = _
  by_cases h : a.field = field
  · rw [if_pos h, if_pos h, List.map_singleton, List.all_cons, List.all_nil, Bool.and_true]
  · rw [if_neg h, if_neg h, List.map_nil]

theorem levelTruths_and :
    levelTruths t field (and p q) =
      joinLevels Bool.and (levelTruths t field p) (levelTruths t field q) :=
  map_joinLevels _ (fun _ _ => List.all_append) _ _

theorem levelTruths_not :
    levelTruths t field (not p) = deepen Bool.true (levelTruths t field p) :=
  map_deepen _ rfl _

/-- A level holds the atoms of the field that occur at its depth. -/
theorem mem_levels {a : Atom} :
    ∀ {depth : Nat}, a ∈ (p.levels field).getD depth [] ↔
      (depth, a) ∈ p.occurrences ∧ a.field = field := by
  induction p with
  | true =>
      intro depth
      change a ∈ [].getD depth [] ↔ (depth, a) ∈ [] ∧ a.field = field
      rw [List.getD_nil]
      simp only [List.not_mem_nil, false_and]
  | atom b =>
      intro depth
      change a ∈ (if b.field = field then [[b]] else []).getD depth [] ↔
        (depth, a) ∈ [(0, b)] ∧ a.field = field
      -- An atom of another field leaves nothing at any level, its own one only the first.
      rw [List.mem_singleton, Prod.mk.injEq]
      by_cases hb : b.field = field
      · rw [if_pos hb]
        cases depth with
        | zero =>
            rw [List.getD_cons_zero, List.mem_singleton]
            exact ⟨fun h => ⟨⟨rfl, h⟩, h ▸ hb⟩, fun h => h.1.2⟩
        | succ depth =>
            rw [List.getD_cons_succ, List.getD_nil]
            simp
      · rw [if_neg hb, List.getD_nil]
        constructor
        · intro h
          cases h
        · rintro ⟨⟨_, rfl⟩, h⟩
          exact absurd h hb
  | and p q ihp ihq =>
      intro depth
      change a ∈ (joinLevels (· ++ ·) (p.levels field) (q.levels field)).getD depth [] ↔
        (depth, a) ∈ p.occurrences ++ q.occurrences ∧ a.field = field
      rw [getD_joinLevels, List.mem_append, ihp, ihq, List.mem_append, or_and_right]
  | not p ih =>
      intro depth
      change a ∈ (deepen [] (p.levels field)).getD depth [] ↔
        (depth, a) ∈ p.occurrences.map (fun x => (x.1 + 1, x.2)) ∧ a.field = field
      -- A negation moves all levels one down and leaves the first one empty.
      rw [List.mem_map]
      cases depth with
      | zero =>
          rw [getD_deepen_zero]
          simp
      | succ depth =>
          rw [getD_deepen_succ, ih]
          constructor
          · rintro ⟨h, hfield⟩
            exact ⟨⟨_, h, rfl⟩, hfield⟩
          · rintro ⟨⟨⟨m, b⟩, h, heq⟩, hfield⟩
            rcases Prod.mk.inj heq with ⟨hm, rfl⟩
            rw [← Nat.succ.inj hm]
            exact ⟨h, hfield⟩

theorem endsWithContent_levels (p : Predicate) : EndsWithContent (p.levels field) := by
  induction p with
  | true => trivial
  | atom a =>
      change EndsWithContent (if a.field = field then [[a]] else [])
      by_cases h : a.field = field
      · rw [if_pos h]
        exact List.cons_ne_nil a []
      · rw [if_neg h]
        trivial
  | and p q ihp ihq => exact endsWithContent_join ihp ihq
  | not p ih => exact endsWithContent_deepen ih

theorem levels_eq_nil : p.levels field = [] ↔ field ∉ p.fields := by
  constructor
  · intro h hfield
    rcases exists_of_mem_fields hfield with ⟨⟨depth, a⟩, hx, ha⟩
    have hmem := mem_levels.mpr ⟨hx, ha⟩
    rw [h, List.getD_nil] at hmem
    cases hmem
  · intro h
    by_contra hne
    -- Levels never end with an empty one, so any level at all leads to an atom of the field.
    rcases exists_content (endsWithContent_levels p) hne with ⟨depth, a, ha⟩
    rcases mem_levels.mp ha with ⟨hx, rfl⟩
    exact h (mem_fields_of_mem hx)

theorem fieldwise_eq_true :
    p.fieldwise t = Bool.true ↔ ∀ field, alternation (p.levelTruths t field) = Bool.true := by
  unfold fieldwise
  rw [List.all_eq_true]
  constructor
  · intro h field
    by_cases hfield : field ∈ p.fields
    · exact h field hfield
    · unfold levelTruths
      rw [levels_eq_nil.mpr hfield]
      rfl
  · intro h field _
    exact h field

end

/-- An odd level of one side is without content if the other side reaches it. -/
theorem eq_nil_of_compatible {x y y' : List Atom} {ys : List (List Atom)}
    (hy : EndsWithContent (y :: y' :: ys))
    (h : ∀ n a b, a ∈ x → b ∈ (y :: y' :: ys).getD n [] → min 1 n % 2 = 0) : x = [] := by
  by_contra hx
  rcases List.exists_mem_of_ne_nil x hx with ⟨a, ha⟩
  have hy' : EndsWithContent (y' :: ys) := hy
  rcases exists_content hy' (List.cons_ne_nil y' ys) with ⟨n, b, hb⟩
  have hodd := h (n + 1) a b ha hb
  omega

/-- Compatible levels are true together if each is: where one of them has content in an
    odd level, the other one ends above it. -/
theorem alternation_join (t : Atom → Bool) :
    ∀ xs ys : List (List Atom), EndsWithContent xs → EndsWithContent ys →
      (∀ m n a b, a ∈ xs.getD m [] → b ∈ ys.getD n [] → min m n % 2 = 0) →
      alternation (joinLevels Bool.and (xs.map (·.all t)) (ys.map (·.all t))) =
        (alternation (xs.map (·.all t)) && alternation (ys.map (·.all t)))
  | [], ys, _, _, _ => by
      exact (Bool.true_and _).symm
  | [x], ys, _, _, _ => by
      rw [List.map_singleton, alternation_join_single, alternation_singleton]
  | x :: x' :: xs, [], _, _, _ => by
      rw [List.map_nil, joinLevels_nil]
      exact (Bool.and_true _).symm
  | x :: x' :: xs, [y], _, _, _ => by
      rw [List.map_singleton, joinLevels_comm Bool.and_comm, alternation_join_single,
        alternation_singleton, Bool.and_comm]
  | x :: x' :: xs, y :: y' :: ys, hx, hy, h => by
      have hx' : x' = [] := eq_nil_of_compatible hy fun n a b ha hb => h 1 n a b ha hb
      have hy' : y' = [] := eq_nil_of_compatible hx fun n a b ha hb => by
        rw [Nat.min_comm]
        exact h n 1 b a hb ha
      subst hx' hy'
      -- Neither side can end at the empty level.
      match xs, ys, hx, hy, h with
      | [], _, hx, _, _ => exact absurd rfl hx
      | _ :: _, [], _, hy, _ => exact absurd rfl hy
      | x₂ :: xs, y₂ :: ys, hx, hy, h =>
          have hrest := alternation_join t (x₂ :: xs) (y₂ :: ys) hx hy fun m n a b ha hb => by
            have heven := h (m + 2) (n + 2) a b ha hb
            omega
          simp only [List.map_cons, joinLevels_cons, alternation_cons_cons, List.all_nil,
            Bool.true_and, Bool.not_not] at hrest ⊢
          rw [hrest]
          ac_rfl

theorem Compatible.alternation_and {t : Assignment} {p q : Predicate} (h : p.Compatible q)
    (field : String) :
    alternation ((and p q).levelTruths t field) =
      (alternation (p.levelTruths t field) && alternation (q.levelTruths t field)) := by
  rw [levelTruths_and]
  refine alternation_join t.holds _ _ (endsWithContent_levels p) (endsWithContent_levels q) ?_
  intro m n a b ha hb
  rcases mem_levels.mp ha with ⟨hx, hfield⟩
  rcases mem_levels.mp hb with ⟨hy, hfield'⟩
  exact h _ hx _ hy (hfield.trans hfield'.symm)

theorem Compatible.fieldwise_and {t : Assignment} {p q : Predicate} (h : p.Compatible q) :
    (and p q).fieldwise t = (p.fieldwise t && q.fieldwise t) := by
  rw [Bool.eq_iff_iff, Bool.and_eq_true, fieldwise_eq_true, fieldwise_eq_true, fieldwise_eq_true,
    ← forall_and]
  refine forall_congr' ?_
  intro field
  rw [h.alternation_and, Bool.and_eq_true]

/-- Of a predicate about one field, the levels of that field decide. -/
theorem fieldwise_of_field {t : Assignment} {p : Predicate} {field : String}
    (h : ∀ other ∈ p.fields, other = field) :
    p.fieldwise t = alternation (p.levelTruths t field) := by
  rw [Bool.eq_iff_iff, fieldwise_eq_true]
  constructor
  · intro hall
    exact hall field
  · intro htrue other
    by_cases hother : other = field
    · rw [hother]
      exact htrue
    · unfold levelTruths
      rw [levels_eq_nil.mpr (mt (h other) hother)]
      rfl

/-- A negation about one field is understood rightly. -/
theorem fieldwise_not {t : Assignment} {p : Predicate} {field : String} (hne : p.fields ≠ [])
    (h : ∀ other ∈ p.fields, other = field) : (not p).fieldwise t = !p.fieldwise t := by
  rw [fieldwise_of_field h,
    fieldwise_of_field (show ∀ other ∈ (not p).fields, other = field from h),
    levelTruths_not, alternation_deepen]
  intro hnil
  rcases List.exists_mem_of_ne_nil _ hne with ⟨other, hother⟩
  have hlevels := List.map_eq_nil_iff.mp hnil
  exact levels_eq_nil.mp hlevels (h other hother ▸ hother)

theorem fieldwise_not_not {t : Assignment} {p : Predicate} :
    (not (not p)).fieldwise t = p.fieldwise t := by
  rw [Bool.eq_iff_iff, fieldwise_eq_true, fieldwise_eq_true]
  refine forall_congr' ?_
  intro field
  rw [levelTruths_not, levelTruths_not, alternation_deepen_deepen]

/-- The layout of a faithful predicate means the same. -/
theorem Faithful.fieldwise_eq {t : Assignment} {p : Predicate} (h : p.Faithful) :
    p.fieldwise t = p.truth t := by
  fun_induction Faithful p with
  | case1 => rfl
  | case2 a =>
      have hfield : ∀ other ∈ (atom a).fields, other = a.field := by
        intro other hother
        exact List.mem_singleton.mp hother
      rw [fieldwise_of_field hfield, levelTruths_atom, if_pos rfl, alternation_singleton, truth]
  | case3 p q ihp ihq =>
      rcases h with ⟨hp, hq, hcompatible⟩
      rw [hcompatible.fieldwise_and, ihp hp, ihq hq, truth]
  | case4 p ih => rw [fieldwise_not_not, ih h, truth, truth, Bool.not_not]
  | case5 p hnot ih =>
      rcases h with ⟨hp, field, hne, hfield⟩
      rw [fieldwise_not hne hfield, ih hp, truth]

end Predicate

end DocumentMapper
