import DocumentMapper.Proofs.Query.Levels

/-!
# Predicates without repeated atoms

Where an atom occurs twice, a predicate may mean the same as its layout by accident: a
contradiction stays one whatever is denied around it. Where every atom occurs once, the
atoms can be made true and false independently, and then the layout of a predicate
means what the predicate means only if the predicate is faithful.

Atoms are one atom if no assignment tells them apart (`Atom.Alike`), as with equal
constants. `Assignment.set` changes the truth of one atom and `Assignment.glue` takes
the truth of the atoms of a predicate from one assignment and that of all others from
another; both respect likeness, so they are assignments again.

The proof needs that every atom matters. `exists_sensitive` finds an assignment under
which a predicate is as true as one of its atoms, or as false where the atom stands
under an odd number of negations. Two such assignments are glued together along a
conjunction, and changing the two atoms shows where the layout differs.

## Main definitions

* `Atom.Alike`: Atoms that no assignment tells apart.
* `Assignment.set`, `Assignment.glue`: Changed assignments.
* `Predicate.ReadOnce`: Predicates in which no atom occurs twice.

## Theorems

* `exists_truth`: Such a predicate is true somewhere and false somewhere.
* `exists_sensitive`: Each of its atoms decides it somewhere.
* `depth_unique`: An atom has one depth.
* `faithful_of_fieldwise_eq`: A layout that means the same comes from a faithful
  predicate.
-/

namespace DocumentMapper

/-- No assignment tells two atoms apart. -/
def Atom.Alike (a b : Atom) : Prop :=
  ∀ t : Assignment, t.holds a = t.holds b

namespace Atom.Alike

theorem refl (a : Atom) : Alike a a :=
  fun _ => rfl

theorem symm {a b : Atom} (h : Alike a b) : Alike b a :=
  fun t => (h t).symm

theorem trans {a b c : Atom} (h : Alike a b) (h' : Alike b c) : Alike a c :=
  fun t => (h t).trans (h' t)

theorem of_equal {field : String} {relation : Relation} {v w : Value} (h : (v == w) = true) :
    Alike ⟨field, relation, v⟩ ⟨field, relation, w⟩ :=
  fun t => t.congr field relation v w h

/-- Atoms that are alike are about one field. -/
theorem field_eq {a b : Atom} (h : Alike a b) : a.field = b.field := by
  have hb := h ⟨fun c => decide (c.field = b.field), fun _ _ _ _ _ => rfl⟩
  simpa using hb

end Atom.Alike

namespace Assignment

open Classical in
/-- The assignment with another truth of one atom. -/
noncomputable def set (t : Assignment) (a : Atom) (b : Bool) : Assignment where
  holds c := if c.Alike a then b else t.holds c
  congr field relation v w h := by
    have halike : Atom.Alike ⟨field, relation, v⟩ ⟨field, relation, w⟩ := .of_equal h
    have hiff : Atom.Alike ⟨field, relation, v⟩ a ↔ Atom.Alike ⟨field, relation, w⟩ a :=
      ⟨halike.symm.trans, halike.trans⟩
    simp only [hiff, halike t]

open Classical in
/-- The assignment that agrees with one on given atoms and with another elsewhere. -/
noncomputable def glue (atoms : List Atom) (t s : Assignment) : Assignment where
  holds c := if ∃ a ∈ atoms, c.Alike a then t.holds c else s.holds c
  congr field relation v w h := by
    have halike : Atom.Alike ⟨field, relation, v⟩ ⟨field, relation, w⟩ := .of_equal h
    have hiff : (∃ a ∈ atoms, Atom.Alike ⟨field, relation, v⟩ a) ↔
        ∃ a ∈ atoms, Atom.Alike ⟨field, relation, w⟩ a :=
      ⟨fun ⟨a, ha, hv⟩ => ⟨a, ha, halike.symm.trans hv⟩,
        fun ⟨a, ha, hw⟩ => ⟨a, ha, halike.trans hw⟩⟩
    simp only [hiff, halike t, halike s]

theorem set_of_alike {t : Assignment} {a c : Atom} {b : Bool} (h : c.Alike a) :
    (t.set a b).holds c = b :=
  if_pos h

theorem set_of_not_alike {t : Assignment} {a c : Atom} {b : Bool} (h : ¬ c.Alike a) :
    (t.set a b).holds c = t.holds c :=
  if_neg h

theorem set_congr {t s : Assignment} {a c : Atom} {b : Bool} (h : t.holds c = s.holds c) :
    (t.set a b).holds c = (s.set a b).holds c := by
  by_cases hc : c.Alike a
  · rw [set_of_alike hc, set_of_alike hc]
  · rw [set_of_not_alike hc, set_of_not_alike hc, h]

theorem glue_of_mem {atoms : List Atom} {t s : Assignment} {c : Atom} (h : c ∈ atoms) :
    (glue atoms t s).holds c = t.holds c :=
  if_pos ⟨c, h, Atom.Alike.refl c⟩

theorem glue_of_not_alike {atoms : List Atom} {t s : Assignment} {c : Atom}
    (h : ∀ a ∈ atoms, ¬ c.Alike a) : (glue atoms t s).holds c = s.holds c :=
  if_neg fun ⟨a, ha, hc⟩ => h a ha hc

end Assignment

namespace Predicate

/-- Every atom occurs once, and nothing but atoms does. -/
def ReadOnce : Predicate → Prop
  | true => False
  | atom _ => True
  | and p q => p.ReadOnce ∧ q.ReadOnce ∧ ∀ a ∈ p.atoms, ∀ b ∈ q.atoms, ¬ a.Alike b
  | not p => p.ReadOnce

theorem truth_congr {t s : Assignment} {p : Predicate}
    (h : ∀ a ∈ p.atoms, t.holds a = s.holds a) : p.truth t = p.truth s := by
  induction p with
  | true => rfl
  | atom a => exact h a List.mem_cons_self
  | and p q ihp ihq =>
      rw [truth, truth, ihp fun a ha => h a (List.mem_append_left _ ha),
        ihq fun a ha => h a (List.mem_append_right _ ha)]
  | not p ih => rw [truth, truth, ih h]

theorem mem_atoms {p : Predicate} {depth : Nat} {a : Atom} (h : (depth, a) ∈ p.occurrences) :
    a ∈ p.atoms := by
  rw [atoms_eq]
  exact List.mem_map_of_mem h

theorem exists_occurrence {p : Predicate} {a : Atom} (h : a ∈ p.atoms) :
    ∃ depth, (depth, a) ∈ p.occurrences := by
  rw [atoms_eq] at h
  rcases List.mem_map.mp h with ⟨⟨depth, _⟩, hx, rfl⟩
  exact ⟨depth, hx⟩

/-- The levels of a field depend on the atoms of that field. -/
theorem levelTruths_congr {t s : Assignment} {p : Predicate} {field : String}
    (h : ∀ a ∈ p.atoms, a.field = field → t.holds a = s.holds a) :
    p.levelTruths t field = p.levelTruths s field := by
  unfold levelTruths
  refine List.map_congr_left ?_
  intro level hlevel
  rw [Bool.eq_iff_iff, List.all_eq_true, List.all_eq_true]
  refine forall₂_congr ?_
  intro a ha
  rcases List.mem_iff_getElem?.mp hlevel with ⟨depth, hdepth⟩
  have hmem : a ∈ (p.levels field).getD depth [] := by
    rw [List.getD_eq_getElem?_getD, hdepth]
    exact ha
  rcases mem_levels.mp hmem with ⟨hx, hfield⟩
  rw [h a (mem_atoms hx) hfield]

section ReadOnce

variable {p q : Predicate}

theorem ReadOnce.atoms_ne_nil (h : p.ReadOnce) : p.atoms ≠ [] := by
  induction p with
  | true => exact h.elim
  | atom a => exact List.cons_ne_nil a []
  | and p q ihp _ =>
      intro hnil
      exact ihp h.1 (List.append_eq_nil_iff.mp hnil).1
  | not p ih => exact ih h

theorem truth_glue_left (t s : Assignment) : p.truth (.glue p.atoms t s) = p.truth t :=
  truth_congr fun _ ha => Assignment.glue_of_mem ha

theorem truth_glue_right (t s : Assignment) (h : ∀ a ∈ p.atoms, ∀ b ∈ q.atoms, ¬ a.Alike b) :
    q.truth (.glue p.atoms t s) = q.truth s :=
  truth_congr fun b hb => Assignment.glue_of_not_alike fun a ha halike => h a ha b hb halike.symm

/-- A predicate without repeated atoms is true somewhere and false somewhere. -/
theorem exists_truth (h : p.ReadOnce) : ∀ b, ∃ t, p.truth t = b := by
  induction p with
  | true => exact h.elim
  | atom a =>
      intro b
      exact ⟨⟨fun _ => b, fun _ _ _ _ _ => rfl⟩, rfl⟩
  | and p q ihp ihq =>
      rcases h with ⟨hp, hq, hapart⟩
      intro b
      rcases ihp hp b with ⟨t, ht⟩
      rcases ihq hq Bool.true with ⟨s, hs⟩
      refine ⟨.glue p.atoms t s, ?_⟩
      rw [truth, truth_glue_left, truth_glue_right t s hapart, ht, hs, Bool.and_true]
  | not p ih =>
      intro b
      rcases ih h (!b) with ⟨t, ht⟩
      exact ⟨t, by rw [truth, ht, Bool.not_not]⟩

theorem truth_set_of_apart {t : Assignment} {a : Atom} {b : Bool}
    (h : ∀ c ∈ p.atoms, ¬ c.Alike a) : p.truth (t.set a b) = p.truth t :=
  truth_congr fun c hc => Assignment.set_of_not_alike (h c hc)

theorem truth_glue_set_left (t s : Assignment) (a : Atom) (b : Bool) :
    p.truth ((Assignment.glue p.atoms t s).set a b) = p.truth (t.set a b) :=
  truth_congr fun _ hc => Assignment.set_congr (Assignment.glue_of_mem hc)

theorem truth_glue_set_right (t s : Assignment) (h : ∀ a ∈ p.atoms, ∀ b ∈ q.atoms, ¬ a.Alike b)
    (a : Atom) (b : Bool) :
    q.truth ((Assignment.glue p.atoms t s).set a b) = q.truth (s.set a b) :=
  truth_congr fun c hc => Assignment.set_congr <|
    Assignment.glue_of_not_alike fun d hd hcd => h d hd c hc hcd.symm

/-- Every atom decides the predicate somewhere: the predicate is as true as the atom, or
    as false if the atom stands under an odd number of negations. -/
theorem exists_sensitive (h : p.ReadOnce) :
    ∀ {depth : Nat} {a : Atom}, (depth, a) ∈ p.occurrences →
      ∃ t : Assignment, ∀ b, p.truth (t.set a b) = (b ^^ decide (depth % 2 = 1)) := by
  induction p with
  | true => exact h.elim
  | atom c =>
      intro depth a ha
      rcases Prod.mk.inj (List.mem_singleton.mp ha) with ⟨rfl, rfl⟩
      refine ⟨⟨fun _ => false, fun _ _ _ _ _ => rfl⟩, ?_⟩
      intro b
      rw [truth, Assignment.set_of_alike (Atom.Alike.refl a)]
      exact (Bool.xor_false b).symm
  | and p q ihp ihq =>
      rcases h with ⟨hp, hq, hapart⟩
      intro depth a ha
      rcases List.mem_append.mp ha with ha | ha
      · rcases ihp hp ha with ⟨t, ht⟩
        rcases exists_truth hq Bool.true with ⟨s, hs⟩
        refine ⟨.glue p.atoms t s, ?_⟩
        intro b
        -- The other side is made true by an assignment of its own; being apart, the two can be
        -- glued.
        have hright : q.truth ((Assignment.glue p.atoms t s).set a b) = q.truth s := by
          rw [truth_set_of_apart fun c hc hca => hapart a (mem_atoms ha) c hc hca.symm,
            truth_glue_right t s hapart]
        rw [truth, truth_glue_set_left, hright, ht, hs, Bool.and_true]
      · rcases ihq hq ha with ⟨s, hs⟩
        rcases exists_truth hp Bool.true with ⟨t, ht⟩
        refine ⟨.glue p.atoms t s, ?_⟩
        intro b
        have hleft : p.truth ((Assignment.glue p.atoms t s).set a b) = p.truth t := by
          rw [truth_set_of_apart fun c hc hca => hapart c hc a (mem_atoms ha) hca,
            truth_glue_left t s]
        rw [truth, hleft, truth_glue_set_right t s hapart, hs, ht, Bool.true_and]
  | not p ih =>
      intro depth a ha
      rcases List.mem_map.mp ha with ⟨⟨m, c⟩, hc, heq⟩
      rcases Prod.mk.inj heq with ⟨rfl, rfl⟩
      rcases ih h hc with ⟨t, ht⟩
      refine ⟨t, ?_⟩
      intro b
      -- One negation more changes the parity and the truth.
      have hparity : decide ((m + 1) % 2 = 1) = !decide (m % 2 = 1) := by
        rw [← decide_not, decide_eq_decide]
        omega
      rw [truth, ht, hparity, Bool.xor_not]

/-- An atom has one depth. -/
theorem depth_unique (h : p.ReadOnce) :
    ∀ {m n : Nat} {a b : Atom}, (m, a) ∈ p.occurrences → (n, b) ∈ p.occurrences → a.Alike b →
      m = n := by
  induction p with
  | true => exact h.elim
  | atom c =>
      intro m n a b ha hb _
      rw [(Prod.mk.inj (List.mem_singleton.mp ha)).1, (Prod.mk.inj (List.mem_singleton.mp hb)).1]
  | and p q ihp ihq =>
      rcases h with ⟨hp, hq, hapart⟩
      intro m n a b ha hb halike
      rcases List.mem_append.mp ha with ha | ha
      · rcases List.mem_append.mp hb with hb | hb
        · exact ihp hp ha hb halike
        · exact absurd halike (hapart a (mem_atoms ha) b (mem_atoms hb))
      · rcases List.mem_append.mp hb with hb | hb
        · exact absurd halike.symm (hapart b (mem_atoms hb) a (mem_atoms ha))
        · exact ihq hq ha hb halike
  | not p ih =>
      intro m n a b ha hb halike
      rcases List.mem_map.mp ha with ⟨⟨m', a'⟩, ha', heq⟩
      rcases Prod.mk.inj heq with ⟨rfl, rfl⟩
      rcases List.mem_map.mp hb with ⟨⟨n', b'⟩, hb', heq'⟩
      rcases Prod.mk.inj heq' with ⟨rfl, rfl⟩
      rw [ih h ha' hb' halike]

theorem fieldwise_congr {t s : Assignment} (h : ∀ a ∈ p.atoms, t.holds a = s.holds a) :
    p.fieldwise t = p.fieldwise s := by
  unfold fieldwise
  simp only [levelTruths_congr fun a ha _ => h a ha]

theorem fieldwise_and_comm (t : Assignment) : (and p q).fieldwise t = (and q p).fieldwise t := by
  rw [Bool.eq_iff_iff, fieldwise_eq_true, fieldwise_eq_true]
  refine forall_congr' ?_
  intro field
  rw [levelTruths_and, levelTruths_and, joinLevels_comm Bool.and_comm]

/-- A false atom makes its level false. -/
theorem levelTruths_of_false {t : Assignment} {depth : Nat} {a : Atom}
    (hmem : (depth, a) ∈ p.occurrences) (ha : t.holds a = false) :
    (p.levelTruths t a.field)[depth]? = some false := by
  have hget := mem_levels.mpr ⟨hmem, rfl⟩
  rw [List.getD_eq_getElem?_getD] at hget
  unfold levelTruths
  rw [List.getElem?_map]
  cases hlevel : (p.levels a.field)[depth]? with
  | none =>
      rw [hlevel] at hget
      cases hget
  | some level =>
      rw [hlevel] at hget
      rw [Option.map_some, Option.some_inj]
      exact List.all_eq_false.mpr ⟨a, hget, by rw [ha]; exact Bool.false_ne_true⟩

/-- The levels above a depth are as true as their atoms. -/
theorem take_levelTruths_congr {t s : Assignment} {depth : Nat} (field : String)
    (h : ∀ x ∈ p.occurrences, x.1 < depth → t.holds x.2 = s.holds x.2) :
    (p.levelTruths t field).take depth = (p.levelTruths s field).take depth := by
  unfold levelTruths
  rw [← List.map_take, ← List.map_take]
  refine List.map_congr_left ?_
  intro upper hupper
  rcases List.mem_take_iff_getElem.mp hupper with ⟨k, hk, rfl⟩
  rw [Bool.eq_iff_iff, List.all_eq_true, List.all_eq_true]
  refine forall₂_congr ?_
  intro c hc
  have hoccurs : c ∈ (p.levels field).getD k [] := by
    rw [List.getD_eq_getElem?_getD, List.getElem?_eq_getElem (by omega)]
    exact hc
  rw [h _ (mem_levels.mp hoccurs).1 (by omega)]

/-- Where an atom is false, deeper atoms of its field make no difference. -/
theorem fieldwise_eq_of_false {t s : Assignment} {depth : Nat} {a : Atom}
    (hmem : (depth, a) ∈ p.occurrences) (ht : t.holds a = false) (hs : s.holds a = false)
    (hshallow : ∀ x ∈ p.occurrences, x.1 < depth → t.holds x.2 = s.holds x.2)
    (hother : ∀ c ∈ p.atoms, c.field ≠ a.field → t.holds c = s.holds c) :
    p.fieldwise t = p.fieldwise s := by
  have hall : ∀ field,
      alternation (p.levelTruths t field) = alternation (p.levelTruths s field) := by
    intro field
    by_cases hfield : a.field = field
    · -- Beneath the false level nothing matters, and above it the atoms agree.
      subst hfield
      exact alternation_of_false (levelTruths_of_false hmem ht) (levelTruths_of_false hmem hs)
        (take_levelTruths_congr a.field hshallow)
    · rw [levelTruths_congr fun c hc hcf => hother c hc fun heq => hfield (heq.symm.trans hcf)]
  rw [Bool.eq_iff_iff, fieldwise_eq_true, fieldwise_eq_true]
  simp only [hall]

section Conjunction

variable {m n : Nat} {a b : Atom}

/-- If the layout of a conjunction means the same, the shallower of two atoms of one
    field is at an even depth. -/
theorem even_of_agree (h : (and p q).ReadOnce)
    (hagree : ∀ t, (and p q).fieldwise t = (and p q).truth t) (ha : (m, a) ∈ p.occurrences)
    (hb : (n, b) ∈ q.occurrences) (hfield : a.field = b.field) (hle : m ≤ n) : m % 2 = 0 := by
  have hapart := h.2.2
  by_contra hodd
  have hodd : m % 2 = 1 := by omega
  rcases exists_sensitive h.1 ha with ⟨t, ht⟩
  rcases exists_sensitive h.2.1 hb with ⟨s, hs⟩
  -- `p` is true because its atom is false, and `q` still depends on its atom.
  let u (c : Bool) : Assignment := (Assignment.glue p.atoms (t.set a false) s).set b c
  have hp : ∀ c, p.truth (u c) = Bool.true := by
    intro c
    rw [truth_set_of_apart fun d hd => hapart d hd b (mem_atoms hb), truth_glue_left, ht,
      decide_eq_true hodd]
    rfl
  have hq : ∀ c, q.truth (u c) = (c ^^ decide (n % 2 = 1)) := by
    intro c
    rw [truth_glue_set_right _ _ hapart, hs]
  have hab : ¬ a.Alike b := hapart a (mem_atoms ha) b (mem_atoms hb)
  have hfalse : ∀ c, (u c).holds a = false := by
    intro c
    rw [Assignment.set_of_not_alike hab, Assignment.glue_of_mem (mem_atoms ha),
      Assignment.set_of_alike (Atom.Alike.refl a)]
  have hrest : ∀ d, ¬ d.Alike b → (u Bool.true).holds d = (u false).holds d := by
    intro d hd
    rw [Assignment.set_of_not_alike hd, Assignment.set_of_not_alike hd]
  have hsame : (and p q).fieldwise (u Bool.true) = (and p q).fieldwise (u false) := by
    refine fieldwise_eq_of_false (List.mem_append_left _ ha) (hfalse _) (hfalse _) ?_ ?_
    · intro x hx hlt
      refine hrest _ ?_
      intro halike
      have hdepth := depth_unique h hx (List.mem_append_right _ hb) halike
      omega
    · intro d _ hd
      refine hrest _ ?_
      intro halike
      exact hd (halike.field_eq.trans hfield.symm)
  rw [hagree, hagree, truth, truth, hp, hp, hq, hq] at hsame
  cases hn : decide (n % 2 = 1) <;> rw [hn] at hsame <;> cases hsame

theorem compatible_of_agree (h : (and p q).ReadOnce)
    (hagree : ∀ t, (and p q).fieldwise t = (and p q).truth t) : p.Compatible q := by
  intro x hx y hy hfield
  rcases Nat.le_total x.1 y.1 with hle | hle
  · rw [Nat.min_eq_left hle]
    exact even_of_agree h hagree hx hy hfield hle
  · rw [Nat.min_eq_right hle]
    have hswap : (and q p).ReadOnce :=
      ⟨h.2.1, h.1, fun b hb a ha halike => h.2.2 a ha b hb halike.symm⟩
    have hagree' : ∀ t, (and q p).fieldwise t = (and q p).truth t := by
      intro t
      rw [fieldwise_and_comm, hagree, truth, truth, Bool.and_comm]
    exact even_of_agree hswap hagree' hy hx hfield.symm hle

/-- What holds of two sides together holds of the first. -/
theorem agree_left (h : (and p q).ReadOnce)
    (hagree : ∀ t, (p.fieldwise t && q.fieldwise t) = (p.truth t && q.truth t)) (t : Assignment) :
    p.fieldwise t = p.truth t := by
  have hapart := h.2.2
  have hleft : ∀ t s, p.fieldwise (.glue p.atoms t s) = p.fieldwise t :=
    fun t s => fieldwise_congr fun _ ha => Assignment.glue_of_mem ha
  have hright : ∀ t s, q.fieldwise (.glue p.atoms t s) = q.fieldwise s :=
    fun t s => fieldwise_congr fun b hb =>
      Assignment.glue_of_not_alike fun a ha halike => hapart a ha b hb halike.symm
  -- With the right side true the conjunction is the left side, in either reading.
  rcases exists_truth h.1 Bool.true with ⟨t₀, ht₀⟩
  rcases exists_truth h.2.1 Bool.true with ⟨s₀, hs₀⟩
  have hs : q.fieldwise s₀ = Bool.true := by
    have h₀ := hagree (.glue p.atoms t₀ s₀)
    rw [hleft, hright, truth_glue_left, truth_glue_right _ _ hapart, ht₀, hs₀,
      Bool.and_true, Bool.and_eq_true] at h₀
    exact h₀.2
  have ht := hagree (.glue p.atoms t s₀)
  rw [hleft, hright, truth_glue_left, truth_glue_right _ _ hapart, hs, hs₀, Bool.and_true,
    Bool.and_true] at ht
  exact ht

/-- If the layout of a denied conjunction means the same, its two sides are about one
    field. -/
theorem field_eq_of_agree (h : (and p q).ReadOnce)
    (hagree : ∀ t, (not (and p q)).fieldwise t = (not (and p q)).truth t)
    (ha : (m, a) ∈ p.occurrences) (hb : (n, b) ∈ q.occurrences) : a.field = b.field := by
  have hapart := h.2.2
  by_contra hne
  rcases exists_sensitive h.1 ha with ⟨t, ht⟩
  rcases exists_sensitive h.2.1 hb with ⟨s, hs⟩
  let u (x y : Bool) : Assignment := ((Assignment.glue p.atoms t s).set a x).set b y
  have hp : ∀ x y, p.truth (u x y) = (x ^^ decide (m % 2 = 1)) := by
    intro x y
    rw [truth_set_of_apart fun d hd => hapart d hd b (mem_atoms hb), truth_glue_set_left, ht]
  have hq : ∀ x y, q.truth (u x y) = (y ^^ decide (n % 2 = 1)) := by
    intro x y
    rw [← hs y]
    refine truth_congr fun d hd => Assignment.set_congr ?_
    rw [Assignment.set_of_not_alike fun hda => hapart a (mem_atoms ha) d hd hda.symm]
    exact Assignment.glue_of_not_alike fun e he hde => hapart e he d hd hde.symm
  have htruth : ∀ x y, (not (and p q)).fieldwise (u x y) =
      !((x ^^ decide (m % 2 = 1)) && (y ^^ decide (n % 2 = 1))) := by
    intro x y
    rw [hagree, truth, truth, hp, hq]
  -- The layout is true where either atom is changed, each for the sake of its own field.
  have hboth : ∀ x y, (not (and p q)).fieldwise (u (!x) y) = Bool.true →
      (not (and p q)).fieldwise (u x (!y)) = Bool.true →
      (not (and p q)).fieldwise (u x y) = Bool.true := by
    intro x y hx hy
    rw [fieldwise_eq_true] at hx hy ⊢
    intro field
    by_cases hfield : field = a.field
    · rw [← hy field]
      refine congrArg _ (levelTruths_congr ?_)
      intro c _ hc
      have hcb : ¬ c.Alike b := fun halike => hne (hfield ▸ hc ▸ halike.field_eq)
      rw [Assignment.set_of_not_alike hcb, Assignment.set_of_not_alike hcb]
    · rw [← hx field]
      refine congrArg _ (levelTruths_congr ?_)
      intro c _ hc
      have hca : ¬ c.Alike a := fun halike => hfield (hc ▸ halike.field_eq)
      refine Assignment.set_congr ?_
      rw [Assignment.set_of_not_alike hca, Assignment.set_of_not_alike hca]
  have hcontra := hboth (!decide (m % 2 = 1)) (!decide (n % 2 = 1))
  rw [htruth, htruth, htruth] at hcontra
  cases hm : decide (m % 2 = 1) <;> cases hn : decide (n % 2 = 1) <;> rw [hm, hn] at hcontra <;>
    exact absurd (hcontra rfl rfl) Bool.false_ne_true

end Conjunction

/-- A layout that means the same comes from a faithful predicate. -/
theorem faithful_of_fieldwise_eq :
    ∀ {p : Predicate}, p.ReadOnce → (∀ t, p.fieldwise t = p.truth t) → p.Faithful
  | atom a, _, _ => trivial
  | and p q, h, hagree => by
      have hcompatible := compatible_of_agree h hagree
      have hboth : ∀ t, (p.fieldwise t && q.fieldwise t) = (p.truth t && q.truth t) := by
        intro t
        rw [← hcompatible.fieldwise_and, hagree, truth]
      have hswap : (and q p).ReadOnce :=
        ⟨h.2.1, h.1, fun b hb a ha halike => h.2.2 a ha b hb halike.symm⟩
      refine ⟨faithful_of_fieldwise_eq h.1 (agree_left h hboth),
        faithful_of_fieldwise_eq h.2.1 (agree_left hswap ?_), hcompatible⟩
      intro t
      rw [Bool.and_comm, hboth, Bool.and_comm]
  | not (atom a), _, _ =>
      ⟨trivial, a.field, List.cons_ne_nil _ _, fun _ hother => List.mem_singleton.mp hother⟩
  | not (not p), h, hagree => by
      refine faithful_of_fieldwise_eq (p := p) h ?_
      intro t
      rw [← fieldwise_not_not, hagree, truth, truth, Bool.not_not]
  | not (and p q), h, hagree => by
      rcases List.exists_mem_of_ne_nil _ h.1.atoms_ne_nil with ⟨a, ha⟩
      rcases List.exists_mem_of_ne_nil _ h.2.1.atoms_ne_nil with ⟨b, hb⟩
      rcases exists_occurrence ha with ⟨m, hm⟩
      rcases exists_occurrence hb with ⟨n, hn⟩
      have hne : (and p q).fields ≠ [] := by
        intro hnil
        have hmem := mem_fields_of_mem (p := and p q) (List.mem_append_left _ hm)
        rw [hnil] at hmem
        cases hmem
      -- Beneath the negation any two atoms of the two sides have one field, so all of them have.
      have hfield : ∀ other ∈ (and p q).fields, other = a.field := by
        intro other hother
        rcases exists_of_mem_fields hother with ⟨⟨k, c⟩, hx, rfl⟩
        rcases List.mem_append.mp hx with hx | hx
        · rw [field_eq_of_agree h hagree hx hn, field_eq_of_agree h hagree hm hn]
        · rw [field_eq_of_agree h hagree hm hx]
      refine ⟨faithful_of_fieldwise_eq h ?_, a.field, hne, hfield⟩
      intro t
      have ht := hagree t
      rw [fieldwise_not hne hfield, truth] at ht
      exact Bool.not_inj ht

end ReadOnce

end Predicate

end DocumentMapper
