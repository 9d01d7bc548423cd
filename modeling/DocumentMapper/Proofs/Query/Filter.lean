import DocumentMapper.Proofs.Query.Placement
import DocumentMapper.Proofs.Query.ReadOnce

/-!
# What a condition document means

A filter that is accepted becomes a condition document. The document means what the
layout of the predicate means, for every assignment (`Stacks.place` carries this through
the predicate, one atom after another). So it depends on the layout whether the document
has the truth of the filter: it has for faithful predicates, and for no others in which
every atom occurs once.

A filter that denies a conjunction over two fields is not faithful, and is accepted all
the same. The document denies each of the fields.

## Main definitions

* `Predicate.Plain`: Predicates that compare with no documents.

## Theorems

* `Document.Stacks.place`: The levels of a document after placing a predicate.
* `Document.truth_eq_fieldwise`: The document means what the layout means.
* `Expr.truth_addConditions`: When the document means what the filter means.
* `Negation.denyBoth_truth_differs`: A filter that is accepted and changes its truth.
-/

namespace DocumentMapper

/-- No atom compares with a document, which would be read as operators. -/
def Predicate.Plain (p : Predicate) : Prop :=
  ∀ a ∈ p.atoms, a.constant.asDocument? = none

/-- The scopes of a number of negations. -/
def negations (count : Nat) : List Scope :=
  List.replicate count (.operator "$not")

theorem conditionPath_negations (count : Nat) (a : Atom) :
    conditionPath (negations count ++ a.scopes) =
      a.field :: (List.replicate count "$not" ++ a.relation.key?.toList) := by
  have hfields : (negations count).filterMap Scope.fieldName? = [] :=
    List.filterMap_replicate_of_none rfl
  have hoperators : (negations count).filterMap Scope.operatorName? =
      List.replicate count "$not" := List.filterMap_replicate_of_some rfl
  unfold conditionPath Atom.scopes
  rw [List.filterMap_append, List.filterMap_append, hfields, hoperators]
  cases a.relation.key? <;> rfl

theorem spells_negations (count : Nat) (r : Relation) :
    Spells (List.replicate count "$not" ++ r.key?.toList) count r := by
  induction count with
  | zero =>
      cases hkey : r.key? with
      | none =>
          cases r with
          | equal => exact .equal
          | _ => cases hkey
      | some key => exact .key key r hkey
  | succ count ih => exact .deny _ count r ih

namespace Document

/-- Placing a predicate multiplies the truth of its levels to that of the document. -/
theorem Stacks.place {t : Assignment} {p : Predicate} (hp : p.Plain) :
    ∀ {count : Nat} {d d' : Document} {levels : String → List Bool}, d.Stacks t levels →
      p.place (negations count) d = .ok d' →
      d'.Stacks t fun field =>
        joinLevels Bool.and (levels field) (sink true count (p.levelTruths t field)) := by
  induction p with
  | true =>
      intro count d d' levels hd h
      rw [← Except.ok.inj h]
      simp only [Predicate.levelTruths_true, sink_nil, joinLevels_nil]
      exact hd
  | atom a =>
      intro count d d' levels hd h
      exact hd.addCondition (conditionPath_negations count a) (spells_negations count a.relation)
        (hp a List.mem_cons_self) h
  | and p q ihp ihq =>
      intro count d d' levels hd h
      rcases Except.bind_eq_ok.mp h with ⟨d₁, hd₁, hd'⟩
      have hleft := ihp (fun a ha => hp a (List.mem_append_left _ ha)) hd hd₁
      have hright := ihq (fun a ha => hp a (List.mem_append_right _ ha)) hleft hd'
      simp only [Predicate.levelTruths_and, sink_joinLevels (Bool.and_self true)]
      simp only [joinLevels_assoc Bool.and_assoc] at hright
      exact hright
  | not p ih =>
      intro count d d' levels hd h
      -- A negation is one more operator between a field and what is asked of it.
      have hscopes : negations count ++ [.operator "$not"] = negations (count + 1) :=
        (List.replicate_succ' ..).symm
      rw [Predicate.place, hscopes] at h
      have hdeeper := ih hp hd h
      simp only [Predicate.levelTruths_not, sink_deepen]
      exact hdeeper

/-- The condition document of a predicate means what the layout of the predicate means. -/
theorem truth_eq_fieldwise {p : Predicate} {d : Document} (hp : p.Plain)
    (h : p.place [] .empty = .ok d) (t : Assignment) : d.truth t = p.fieldwise t := by
  have hd := (Stacks.empty t).place hp (show p.place (negations 0) .empty = .ok d from h)
  rw [Bool.eq_iff_iff, hd.truth_eq_true, Predicate.fieldwise_eq_true]
  rfl

end Document

/-- An accepted filter stands for a predicate, and its condition document has the truth
    of the predicate exactly if the layout of the predicate has. So it is for faithful
    predicates, and for no others without repeated atoms. -/
theorem Expr.truth_addConditions {e : Expr} {d : Document}
    (h : e.addConditions [] .empty = .ok d) :
    ∃ p, e.predicate? = some p ∧ (p.Plain →
      (∀ t, d.truth t = p.fieldwise t) ∧
      ((∀ t, d.truth t = p.truth t) ↔ ∀ t, p.fieldwise t = p.truth t) ∧
      (p.Faithful → ∀ t, d.truth t = p.truth t) ∧
      (p.ReadOnce → (∀ t, d.truth t = p.truth t) → p.Faithful)) := by
  have hplaces := e.places
  cases hp : e.predicate? with
  | none =>
      rw [hp] at hplaces
      exact absurd h (hplaces [] .empty d)
  | some p =>
      rw [hp] at hplaces
      have hplace : p.place [] .empty = .ok d := (hplaces [] .empty).symm.trans h
      refine ⟨p, rfl, ?_⟩
      intro hplain
      have htruth := Document.truth_eq_fieldwise hplain hplace
      refine ⟨htruth, ?_, ?_, ?_⟩
      · simp only [htruth]
      · intro hfaithful t
        rw [htruth, hfaithful.fieldwise_eq]
      · intro honce hagree
        refine Predicate.faithful_of_fieldwise_eq honce ?_
        intro t
        rw [← htruth, hagree]

namespace Negation

/-- The test for an age. -/
def olderThan (years : Int32) : Expr :=
  .binary .greater (.field ⟨"t0", "Age"⟩) (.constant (.int32 years))

/-- The test for a name. -/
def namedBefore (name : String) : Expr :=
  .binary .less (.field ⟨"t0", "Name"⟩) (.constant (.string name))

/-- A filter that denies something about one field. -/
def denyName : Expr :=
  .binary .andAlso (olderThan 21) (.unary .not (namedBefore "M"))

/-- A filter that denies something about two fields. -/
def denyBoth : Expr :=
  .unary .not (.binary .andAlso (olderThan 21) (namedBefore "M"))

/-- The document of a filter that denies something about one field has its truth. -/
theorem denyName_truth :
    ∃ d p, denyName.addConditions [] .empty = .ok d ∧ denyName.predicate? = some p ∧
      ∀ t, d.truth t = p.truth t := by
  have hd : ∃ d, denyName.addConditions [] .empty = .ok d := ⟨_, rfl⟩
  rcases hd with ⟨d, hd⟩
  rcases Expr.truth_addConditions hd with ⟨p, hp, htruth⟩
  have hpredicate : p = .and (.atom ⟨"Age", .greater, .int32 21⟩)
      (.not (.atom ⟨"Name", .less, .string "M"⟩)) := (Option.some.inj hp).symm
  have hplain : p.Plain := by
    rw [hpredicate]
    intro a ha
    rcases List.mem_cons.mp ha with rfl | ha
    · rfl
    · rw [List.mem_singleton.mp ha]
      rfl
  have hfaithful : p.Faithful := by
    rw [hpredicate]
    refine ⟨trivial, ⟨trivial, "Name", List.cons_ne_nil _ _, ?_⟩, ?_⟩
    · intro other hother
      exact List.mem_singleton.mp hother
    · -- The two atoms are about different fields.
      intro x hx y hy hfield
      rw [List.mem_singleton.mp hx, List.mem_singleton.mp hy] at hfield
      exact absurd hfield (by decide)
  exact ⟨d, p, hd, hp, (htruth hplain).2.2.1 hfaithful⟩

/-- The document of a filter that denies a conjunction over two fields is false where the
    first of them is true and the second is not. -/
theorem denyBoth_truth_differs :
    ∃ d p t, denyBoth.addConditions [] .empty = .ok d ∧ denyBoth.predicate? = some p ∧
      p.Plain ∧ d.truth t = false ∧ p.truth t = true := by
  refine ⟨_, _, ⟨fun a => decide (a.field = "Age"), fun _ _ _ _ _ => rfl⟩, rfl, rfl, ?_, ?_, ?_⟩
  · intro a ha
    rcases List.mem_cons.mp ha with rfl | ha
    · rfl
    · rw [List.mem_singleton.mp ha]
      rfl
  · rfl
  · rfl

end Negation

end DocumentMapper
