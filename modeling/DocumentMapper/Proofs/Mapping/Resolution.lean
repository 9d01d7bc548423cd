import DocumentMapper.Mapping.Materialize
import DocumentMapper.Proofs.Mapping.Store

/-!
# Finding the class of a document

A document names its class by a discriminator, and it is read where a class above its
own may be expected. The expected class and the stored one then lie in one hierarchy,
so the discriminator is looked for under the name it was written with, and its tag
names the class again as long as no other class of the hierarchy has that tag.

## Main definitions

* `Store.Distinguishable`: One name for discriminators and different tags.

## Theorems

* `ofValue?_toValue`: A discriminator is read from its stored form.
* `tagged?_of_mem`: A class is found by its tag.
* `resolve_of_tagged`: The class of a document is found from every class above it.
-/

namespace DocumentMapper

/-- The classes of a hierarchy store their discriminators under one name, no two of them
    have one tag, and no discriminator is an empty list of tags. -/
structure Store.Distinguishable (s : Store) : Prop where
  sharedName : ∀ p ∈ s.classes, ∀ q ∈ s.classes, p.root = q.root →
    p.map.discriminatorName = q.map.discriminatorName
  differentTags : ∀ p ∈ s.classes, ∀ q ∈ s.classes, p.root = q.root →
    ∀ d e, p.map.discriminator = some d → q.map.discriminator = some e →
      d.concreteTag = e.concreteTag → p.map.name = q.map.name
  tagged : ∀ p ∈ s.classes, p.map.discriminator ≠ some (.chain [])

namespace Discriminator

theorem mapM_tagOfValue? (tags : List String) :
    (tags.map Value.string).mapM tagOfValue? = some tags := by
  induction tags with
  | nil => rfl
  | cons tag rest ih => rw [List.map_cons, List.mapM_cons, ih]; rfl

theorem ofValue?_toValue {d : Discriminator} (h : d ≠ .chain []) : ofValue? d.toValue = some d := by
  cases d with
  | single tag => rfl
  | chain tags =>
      cases tags with
      | nil => exact absurd rfl h
      | cons tag rest =>
          unfold toValue ofValue?
          dsimp only
          rw [mapM_tagOfValue?]

end Discriminator

namespace Store

variable {s : Store}

/-- A class is found by its tag in its hierarchy, as no other class has it. -/
theorem tagged?_of_mem (hs : s.Hierarchical) (hd : s.Distinguishable) {p : Placed}
    (hp : p ∈ s.classes) {d : Discriminator} (hdisc : p.map.discriminator = some d) :
    s.tagged? p.root d.concreteTag = some p.map := by
  unfold tagged?
  dsimp only
  cases hfound : s.classes.reverse.find? _ with
  | none =>
      have hne := List.find?_eq_none.mp hfound p (List.mem_reverse.mpr hp)
      rw [hdisc] at hne
      simp at hne
  | some q =>
      have hq : q ∈ s.classes := List.mem_reverse.mp (List.mem_of_find?_eq_some hfound)
      have hcarries := List.find?_some hfound
      rw [Bool.and_eq_true, beq_iff_eq, beq_iff_eq] at hcarries
      rcases hcarries with ⟨hroot, htag⟩
      rcases Option.map_eq_some_iff.mp htag with ⟨e, he, hsame⟩
      -- Another class may be found first, but not with the same tag under the same root.
      have hname := hd.differentTags q hq p hp hroot e d he hdisc hsame
      rw [List.inj_on_of_nodup_map hs.names hq hp hname]
      rfl

theorem forDiscriminator_of_mem (hs : s.Hierarchical) (hd : s.Distinguishable) {p q : Placed}
    (hp : p ∈ s.classes) (hq : q ∈ s.classes) (hroot : q.root = p.root)
    (hbase : s.isAssignable q.map.name p.map.name = true) {d : Discriminator}
    (hdisc : p.map.discriminator = some d) :
    s.forDiscriminator q.map.name d.concreteTag = .ok p.map := by
  unfold forDiscriminator
  rw [placed?_of_mem hs hq, Option.bind_some, hroot, tagged?_of_mem hs hd hp hdisc]
  dsimp only
  rw [if_pos hbase]

/-- The class of a document is found wherever a class above it is expected, if the
    document carries the discriminator of its class. -/
theorem resolve_of_tagged (hs : s.Hierarchical) (hd : s.Distinguishable) {p : Placed}
    (hp : p ∈ s.classes) {base : String} (hbase : s.isAssignable base p.map.name = true)
    (doc : Document) (hdoc : p.map.isPolymorphic = true → ∃ d, p.map.discriminator = some d ∧
      doc.get? p.map.discriminatorName = some d.toValue) :
    s.resolve base doc = .ok p.map := by
  rcases placed_of_isAssignable hs hp hbase with ⟨q, hq, rfl, hroot, hcase⟩
  have hclass : s.classMap q.map.name = .ok q.map := by
    unfold classMap
    rw [find?_of_mem hs hq]
  unfold resolve
  refine Except.bind_eq_ok.mpr ⟨q.map, hclass, ?_⟩
  cases hpoly : q.map.isPolymorphic with
  | false =>
      -- Outside of hierarchies a class is assignable to itself only.
      rcases hcase with rfl | ⟨hq', _⟩
      · rfl
      · rw [hpoly] at hq'
        cases hq'
  | true =>
      have hpoly' : p.map.isPolymorphic = true := by
        rcases hcase with rfl | ⟨_, hp'⟩
        · exact hpoly
        · exact hp'
      rcases hdoc hpoly' with ⟨d, hdisc, hget⟩
      have hnonempty : d ≠ .chain [] := fun hc => hd.tagged p hp (by rw [hdisc, hc])
      rw [if_neg (by decide), hd.sharedName q hq p hp hroot, hget]
      dsimp only
      rw [Discriminator.ofValue?_toValue hnonempty]
      dsimp only
      by_cases htag :
          (q.map.discriminator.map Discriminator.concreteTag == some d.concreteTag) = true
      · rw [if_pos htag]
        rcases Option.map_eq_some_iff.mp (beq_iff_eq.mp htag) with ⟨e, he, hsame⟩
        have hname := hd.differentTags q hq p hp hroot e d he hdisc hsame
        rw [List.inj_on_of_nodup_map hs.names hq hp hname]
        rfl
      · rw [if_neg htag]
        exact forDiscriminator_of_mem hs hd hp hq hroot hbase hdisc

end Store

end DocumentMapper
