import DocumentMapper.Proofs.Mapping.Store
import Mathlib.Logic.Relation

/-!
# Lineages in a store

A store follows the bases of a class upwards with a bound on the number of steps, so that
the walk ends whatever is stored. In a built store the bound is never reached: the classes
the walk meets are the ancestry the store was built from, up to the root
(`lineage_of_made`). So the lineage of a class is the class in front of the lineage of its
base, and a class is assignable to those classes that its base links lead to.

## Main definitions

* `Store.BaseOf`, `Store.Descends`: One base link, and any number of them.

## Theorems

* `lineage_of_made`: The lineage of a class is the ancestry of its class map.
* `lineage_of_base`: The lineage of a class goes on with that of its base.
* `isAssignable_iff_descends`: Assignability is descent along base links.
-/

namespace DocumentMapper

namespace Store

/-- A class and the base that its class map names. -/
def BaseOf (s : Store) (derived base : String) : Prop :=
  ∃ c, s.find? derived = some c ∧ c.base = some base

/-- A class is another one or a descendant of it along base links. -/
def Descends (s : Store) : String → String → Prop :=
  Relation.ReflTransGen s.BaseOf

variable {maps : List ClassMap} {s : Store}

/-- Where the class maps were placed with their lineages, walking up from a class meets
    its lineage, unless the bound is smaller. -/
theorem lineageWithin_of_made {bases : List String} {entries : List (ClassMap × List String)}
    (hs : s.Hierarchical) (hperm : (entries.map Prod.fst).Perm maps)
    (hlineage : ∀ entry ∈ entries, ancestry maps entry.1 = .ok entry.2)
    (hmade : List.Forall₂ (fun entry p => p.Made bases entry.1 entry.2) entries s.classes) :
    ∀ (steps : Nat) (entry : ClassMap × List String), entry ∈ entries →
      entry.2.length ≤ steps → s.lineageWithin steps entry.1.name = entry.2.reverse := by
  intro steps
  induction steps with
  | zero =>
      intro entry hentry hlength
      rcases ancestry_eq_append (hlineage entry hentry) with ⟨upper, hupper⟩
      rw [hupper, List.length_append, List.length_singleton] at hlength
      omega
  | succ steps ih =>
      intro entry hentry hlength
      rcases exists_right_of_forall₂ hmade hentry with ⟨p, hp, hfrom⟩
      have hfound : s.find? entry.1.name = some p.map := by
        rw [← hfrom.name]
        exact find?_of_mem hs hp
      rw [lineageWithin, hfound, Option.bind_some, hfrom.base]
      cases hbase : entry.1.base with
      | none =>
          rw [ancestry_of_root (hlineage entry hentry) hbase]
          rfl
      | some base =>
          rcases exists_base_entry hperm hlineage hentry hbase with
            ⟨parent, hparent, rfl, hextends⟩
          -- The base has a lineage shorter by one, so one step less is enough for it.
          rw [hextends, List.length_append, List.length_singleton] at hlength
          rw [hextends, List.reverse_append, List.reverse_singleton, List.singleton_append]
          exact congrArg _ (ih parent hparent (by omega))

/-- The lineage of a class is the ancestry of its class map, read upwards. -/
theorem lineage_of_made {bases : List String} {entries : List (ClassMap × List String)}
    (hs : s.Hierarchical) (hperm : (entries.map Prod.fst).Perm maps)
    (hlineage : ∀ entry ∈ entries, ancestry maps entry.1 = .ok entry.2)
    (hmade : List.Forall₂ (fun entry p => p.Made bases entry.1 entry.2) entries s.classes)
    {entry : ClassMap × List String} (hentry : entry ∈ entries) :
    s.lineage entry.1.name = entry.2.reverse := by
  refine lineageWithin_of_made hs hperm hlineage hmade _ entry hentry ?_
  have hlength := length_le_of_ancestry (hlineage entry hentry)
  -- No lineage is longer than the store has classes, so the steps are enough.
  have hsize : s.size = maps.length := by
    unfold size
    rw [← hmade.length_eq, ← hperm.length_eq, List.length_map]
  omega

/-- The lineage of a class goes on with that of its base. -/
theorem lineage_of_base (h : build maps = .ok s) {name base : String}
    (hbase : s.BaseOf name base) : s.lineage name = name :: s.lineage base := by
  have hs := build_hierarchical h
  rcases build_made h with ⟨entries, hperm, hlineage, hmade⟩
  rcases hbase with ⟨c, hc, hbase⟩
  rcases exists_placed_of_find? hc with ⟨p, hp, rfl, rfl⟩
  rcases exists_left_of_forall₂ hmade hp with ⟨entry, hentry, hfrom⟩
  rw [hfrom.base] at hbase
  rcases exists_base_entry hperm hlineage hentry hbase with ⟨parent, hparent, rfl, hextends⟩
  rw [hfrom.name, lineage_of_made hs hperm hlineage hmade hentry,
    lineage_of_made hs hperm hlineage hmade hparent, hextends, List.reverse_append,
    List.reverse_singleton, List.singleton_append]

theorem mem_lineage_self (s : Store) (name : String) : name ∈ s.lineage name := by
  unfold lineage
  rw [lineageWithin]
  exact List.mem_cons_self

/-- What the walk meets is reached by base links. -/
theorem descends_of_mem_lineageWithin {base : String} :
    ∀ (steps : Nat) (name : String), base ∈ s.lineageWithin steps name → s.Descends name base := by
  intro steps
  induction steps with
  | zero =>
      intro name hmem
      cases hmem
  | succ steps ih =>
      intro name hmem
      rw [lineageWithin] at hmem
      rcases List.mem_cons.mp hmem with rfl | hmem
      · exact Relation.ReflTransGen.refl
      · cases hfound : (s.find? name).bind ClassMap.base with
        | none =>
            rw [hfound] at hmem
            cases hmem
        | some above =>
            rw [hfound] at hmem
            rcases Option.bind_eq_some_iff.mp hfound with ⟨c, hc, habove⟩
            exact Relation.ReflTransGen.head ⟨c, hc, habove⟩ (ih above hmem)

/-- A class is assignable to those that its base links lead to: the bound of the walk does
    not cut it off. -/
theorem isAssignable_iff_descends (h : build maps = .ok s) {base derived : String} :
    s.isAssignable base derived = true ↔ s.Descends derived base := by
  unfold isAssignable
  rw [List.contains_iff_mem]
  constructor
  · exact descends_of_mem_lineageWithin _ derived
  · intro hdescends
    induction hdescends using Relation.ReflTransGen.head_induction_on with
    | refl => exact mem_lineage_self s base
    | head hlink _ ih =>
        rw [lineage_of_base h hlink]
        exact List.mem_cons_of_mem _ ih

end Store

end DocumentMapper
