import DocumentMapper.Proofs.Mapping.Store
import Mathlib.Data.List.Induction

/-!
# What a class has from its base

A class is completed with what its base has, and by then the base has to be complete
itself. The fold that builds a store takes the classes by their depth, so a base, whose
lineage is shorter, was placed before (`build_completed`). This is the one fact about the
order of the fold, and what a class has from its base follows from it: a member of the
base is one of the class, with the base's stored name, and a class has an identity if its
base has one. A class may declare an identity of its own in place of the base's, which may
have another name. So identities are kept by their stored name, and other members by both.

All of this is said of one step to the base and then of all steps upwards.

## Main definitions

* `ClassMap.completedIn`: A class map with what its base in a store has.
* `Member.names`: The names of a member.
* `ClassMap.Extends`: A class has what another one has.

## Theorems

* `build_completed`: A class of a built store is completed from the complete base.
* `exists_identity_declared`: An identity was declared by some class map.
* `extends_of_isAssignable`: A class has what the classes above it have.
-/

namespace DocumentMapper

/-- A class map with what its base has, if that is in the store. -/
def ClassMap.completedIn (c : ClassMap) (s : Store) : ClassMap :=
  match c.base.bind s.find? with
  | some base => c.inherit base
  | none => c

namespace Store

/-! ### The order of the fold -/

theorem place_eq (s : Store) (c : ClassMap) (lineage : List String) (isBase : Bool) :
    s.place c lineage isBase =
      ⟨s.classes ++ [⟨(c.completedIn s).place lineage isBase, lineage.headD c.name⟩]⟩ := by
  unfold place ClassMap.completedIn
  cases c.base.bind s.find? with
  | none => rfl
  | some base => rfl

theorem placeAll_concat (bases : List String) (entries : List (ClassMap × List String))
    (entry : ClassMap × List String) :
    placeAll bases (entries ++ [entry]) =
      (placeAll bases entries).place entry.1 entry.2 (bases.contains entry.1.name) := by
  unfold placeAll
  rw [List.foldl_append]
  rfl

/-- A placed class was completed in the store of the entries before its own. -/
theorem completed_of_mem_placeAll {bases : List String} {p : Placed}
    (entries : List (ClassMap × List String)) (hp : p ∈ (placeAll bases entries).classes) :
    ∃ before entry after, entries = before ++ entry :: after ∧
      p.map = (entry.1.completedIn (placeAll bases before)).place entry.2
        (bases.contains entry.1.name) := by
  induction entries using List.reverseRecOn with
  | nil => cases hp
  | append_singleton entries last ih =>
      rw [placeAll_concat, place_eq] at hp
      rcases List.mem_append.mp hp with hp | hp
      · rcases ih hp with ⟨before, entry, after, rfl, hmap⟩
        exact ⟨before, entry, after ++ [last], List.append_assoc _ _ _, hmap⟩
      · rw [List.mem_singleton.mp hp]
        exact ⟨entries, last, [], rfl, rfl⟩

/-- Placing more classes keeps those that were placed. -/
theorem placeAll_subset (bases : List String) (before after : List (ClassMap × List String)) :
    (placeAll bases before).classes ⊆ (placeAll bases (before ++ after)).classes := by
  induction after using List.reverseRecOn with
  | nil =>
      rw [List.append_nil]
      exact List.Subset.refl _
  | append_singleton after last ih =>
      rw [← List.append_assoc, placeAll_concat, place_eq]
      exact List.Subset.trans ih (List.subset_append_left _ _)

theorem names_placeAll (bases : List String) (entries : List (ClassMap × List String)) :
    (placeAll bases entries).classes.map (fun p => p.map.name) =
      entries.map fun entry => entry.1.name := by
  exact (map_eq_map_of_forall₂ (made_placeAll bases entries) fun _ _ hp => hp.name.symm).symm

/-- The entry of a base stands before that of a class, as its lineage is shorter. -/
theorem base_before {maps : List ClassMap} {before after : List (ClassMap × List String)}
    {entry : ClassMap × List String}
    (hperm : ((before ++ entry :: after).map Prod.fst).Perm maps)
    (hlineage : ∀ other ∈ before ++ entry :: after, ancestry maps other.1 = .ok other.2)
    (hsorted : (before ++ entry :: after).Pairwise fun a b => precedes a b = true)
    {base : String} (hbase : entry.1.base = some base) :
    ∃ parent ∈ before, parent.1.name = base := by
  have hentry : entry ∈ before ++ entry :: after := List.mem_append_right _ List.mem_cons_self
  rcases exists_base_entry hperm hlineage hentry hbase with ⟨parent, hparent, hname, hextends⟩
  have hshorter : parent.2.length < entry.2.length := by
    rw [hextends, List.length_append, List.length_singleton]
    exact Nat.lt_succ_self _
  refine ⟨parent, ?_, hname⟩
  -- It cannot stand behind: what stands behind has a lineage that is not shorter.
  rcases List.mem_append.mp hparent with hbefore | hbehind
  · exact hbefore
  · rcases List.mem_cons.mp hbehind with rfl | hafter
    · exact absurd hshorter (Nat.lt_irrefl _)
    · have hpair := (List.pairwise_cons.mp (List.pairwise_append.mp hsorted).2.1).1 parent hafter
      rw [precedes_iff] at hpair
      omega

/-- A class of a built store is completed from its class map: alone, or with what its base
    in the store has. -/
theorem build_completed {maps : List ClassMap} {s : Store} (h : build maps = .ok s) {p : Placed}
    (hp : p ∈ s.classes) :
    ∃ c ∈ latest maps, ∃ lineage isBase,
      (c.base = none ∧ p.map = c.place lineage isBase) ∨
      ∃ q ∈ s.classes, c.base = some q.map.name ∧
        p.map = (c.inherit q.map).place lineage isBase := by
  rcases build_entries h with ⟨entries, hperm, hlineage, hsorted, rfl⟩
  rcases completed_of_mem_placeAll entries hp with ⟨before, ⟨c, lineage⟩, after, rfl, hmap⟩
  have hentry : (c, lineage) ∈ before ++ (c, lineage) :: after :=
    List.mem_append_right _ List.mem_cons_self
  have hmem : c ∈ latest maps := hperm.mem_iff.mp (List.mem_map.mpr ⟨_, hentry, rfl⟩)
  dsimp only at hmap
  refine ⟨c, hmem, lineage,
    ((latest maps).filterMap ClassMap.base).contains c.name, ?_⟩
  cases hbase : c.base with
  | none =>
      rw [ClassMap.completedIn, hbase] at hmap
      exact .inl ⟨rfl, hmap⟩
  | some b =>
      -- Entries are sorted by the length of lineages, so the base has been placed before.
      rcases base_before hperm hlineage hsorted hbase with ⟨parent, hparent, rfl⟩
      have hname : parent.1.name ∈
          (placeAll ((latest maps).filterMap ClassMap.base) before).classes.map (·.map.name) := by
        rw [names_placeAll]
        exact List.mem_map.mpr ⟨parent, hparent, rfl⟩
      cases hfound : (placeAll ((latest maps).filterMap ClassMap.base) before).placed?
          parent.1.name with
      | none => exact absurd hname (find?_key_eq_none.mp hfound)
      | some q =>
          rcases mem_of_placed? hfound with ⟨hq, hqname⟩
          refine .inr ⟨q, placeAll_subset _ _ _ hq, congrArg some hqname.symm, ?_⟩
          rw [ClassMap.completedIn, hbase, Option.bind_some, find?, hfound] at hmap
          exact hmap

/-- An identity was declared by the class itself or by one above it. -/
theorem identity_placeAll {bases : List String} (entries : List (ClassMap × List String)) :
    ∀ {p : Placed}, p ∈ (placeAll bases entries).classes → ∀ {m : Member},
      p.map.identity = some m → ∃ entry ∈ entries, entry.1.identity = some m := by
  induction entries using List.reverseRecOn with
  | nil =>
      intro p hp
      cases hp
  | append_singleton entries last ih =>
      intro p hp m hm
      rw [placeAll_concat, place_eq] at hp
      rcases List.mem_append.mp hp with hp | hp
      · rcases ih hp hm with ⟨entry, hentry, hdeclared⟩
        exact ⟨entry, List.mem_append_left _ hentry, hdeclared⟩
      · rw [List.mem_singleton.mp hp] at hm
        change (last.1.completedIn (placeAll bases entries)).identity = some m at hm
        have hlast : last ∈ entries ++ [last] := List.mem_append_right _ (List.mem_singleton_self _)
        unfold ClassMap.completedIn at hm
        cases hfound : last.1.base.bind (placeAll bases entries).find? with
        | none =>
            rw [hfound] at hm
            exact ⟨last, hlast, hm⟩
        | some above =>
            -- The identity is its own, or that of the base, which was placed before.
            rw [hfound] at hm
            cases hown : last.1.identity with
            | some own =>
                refine ⟨last, hlast, ?_⟩
                rw [← hm]
                dsimp only [ClassMap.inherit]
                rw [hown]
                rfl
            | none =>
                dsimp only [ClassMap.inherit] at hm
                rw [hown] at hm
                rcases Option.bind_eq_some_iff.mp hfound with ⟨b, _, hb⟩
                rcases exists_placed_of_find? hb with ⟨q, hq, rfl, _⟩
                rcases ih hq hm with ⟨entry, hentry, hdeclared⟩
                exact ⟨entry, List.mem_append_left _ hentry, hdeclared⟩

theorem exists_identity_declared {maps : List ClassMap} {s : Store} (h : build maps = .ok s)
    {p : Placed} (hp : p ∈ s.classes) {m : Member} (hm : p.map.identity = some m) :
    ∃ c ∈ maps, c.identity = some m := by
  rcases build_entries h with ⟨entries, hperm, _, _, rfl⟩
  rcases identity_placeAll entries hp hm with ⟨entry, hentry, hdeclared⟩
  have hmem := hperm.mem_iff.mp (List.mem_map.mpr ⟨entry, hentry, rfl⟩)
  exact ⟨entry.1, latest_subset maps hmem, hdeclared⟩

end Store

/-! ### What a class has -/

/-- The names of a member. -/
def Member.names (m : Member) : String × String :=
  (m.name, m.storedName)

/-- A class has what another one has: its members under their names and in their places,
    and an identity if that one has one. -/
structure ClassMap.Extends (c above : ClassMap) : Prop where
  members : above.members.map Member.names <+: c.members.map Member.names
  identity : above.identity.isSome = true → c.identity.isSome = true

namespace ClassMap

theorem Extends.refl (c : ClassMap) : c.Extends c where
  members := List.prefix_refl _
  identity := id

theorem Extends.trans {a b c : ClassMap} (hab : a.Extends b) (hbc : b.Extends c) :
    a.Extends c where
  members := hbc.members.trans hab.members
  identity h := hab.identity (hbc.identity h)

theorem names_map_append {redeclare : Member → Member} (base more : List Member)
    (h : ∀ b ∈ base, (redeclare b).names = b.names) :
    base.map Member.names <+: (base.map redeclare ++ more).map Member.names := by
  have hkept : (base.map redeclare).map Member.names = base.map Member.names := by
    rw [List.map_map]
    exact List.map_congr_left h
  rw [List.map_append, hkept]
  exact List.prefix_append _ _

/-- A member that is declared again keeps its names. -/
theorem names_inheritMembers (base own : List Member) :
    base.map Member.names <+: (inheritMembers base own).map Member.names := by
  refine names_map_append base _ fun b _ => ?_
  cases hfound : own.find? (·.name = b.name) with
  | none => rfl
  | some m =>
      have hname : m.name = b.name := of_decide_eq_true (List.find?_some hfound :)
      exact congrArg (·, b.storedName) hname

theorem extends_inherit (c base : ClassMap) (lineage : List String) (isBase : Bool) :
    ((c.inherit base).place lineage isBase).Extends base where
  members := names_inheritMembers base.members c.members
  identity h := by
    change (c.identity.orElse fun _ => base.identity).isSome = true
    cases c.identity with
    | some own => rfl
    | none => exact h

end ClassMap

namespace Store

variable {maps : List ClassMap} {s : Store}

/-- A class has what its base has. -/
theorem extends_base (h : build maps = .ok s) {p q : Placed} (hp : p ∈ s.classes)
    (hq : q ∈ s.classes) (hbase : p.map.base = some q.map.name) : p.map.Extends q.map := by
  rcases build_completed h hp with
    ⟨c, _, lineage, isBase, ⟨hroot, hmap⟩ | ⟨above, habove, hc, hmap⟩⟩
  · rw [hmap] at hbase
    change c.base = _ at hbase
    rw [hroot] at hbase
    cases hbase
  · rw [hmap] at hbase ⊢
    change c.base = _ at hbase
    rw [hc] at hbase
    have hsame : above = q :=
      List.inj_on_of_nodup_map (build_hierarchical h).names habove hq (Option.some.inj hbase)
    rw [← hsame]
    exact c.extends_inherit above.map lineage isBase

theorem extends_of_mem_lineage (h : build maps = .ok s) {above : String} :
    ∀ (steps : Nat) (p : Placed), p ∈ s.classes → above ∈ s.lineageWithin steps p.map.name →
      ∃ c, s.find? above = some c ∧ p.map.Extends c := by
  have hs := build_hierarchical h
  intro steps
  induction steps with
  | zero =>
      intro p _ habove
      cases habove
  | succ steps ih =>
      intro p hp habove
      rw [lineageWithin, find?_of_mem hs hp, Option.bind_some] at habove
      rcases List.mem_cons.mp habove with rfl | habove
      · exact ⟨p.map, find?_of_mem hs hp, .refl _⟩
      · cases hb : p.map.base with
        | none =>
            rw [hb] at habove
            cases habove
        | some b =>
            rw [hb] at habove
            rcases hs.base p hp b hb with ⟨q, hq, rfl, _⟩
            rcases ih q hq habove with ⟨c, hc, hextends⟩
            exact ⟨c, hc, (extends_base h hp hq hb).trans hextends⟩

/-- A class has what the classes above it have. -/
theorem extends_of_isAssignable (h : build maps = .ok s) {above name : String} {c d : ClassMap}
    (hc : s.find? above = some c) (hd : s.find? name = some d)
    (hassignable : s.isAssignable above name = true) : d.Extends c := by
  rcases exists_placed_of_find? hd with ⟨p, hp, rfl, rfl⟩
  rcases extends_of_mem_lineage h (s.size + 1) p hp (List.contains_iff_mem.mp hassignable) with
    ⟨c', hc', hextends⟩
  rw [hc] at hc'
  rw [Option.some.inj hc']
  exact hextends

end Store

end DocumentMapper
