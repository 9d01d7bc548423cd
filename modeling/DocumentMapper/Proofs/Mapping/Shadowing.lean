import DocumentMapper.Proofs.Mapping.Lineage
import Mathlib.Data.String.Basic

/-!
# Classes with one tag

Nothing keeps two classes of a hierarchy from declaring one tag. The classes are completed
by their depth, and by name at one depth, and a tag then leads to the class that was
completed last. So a class is found by its own tag exactly if no class of its hierarchy
with this tag comes after it, and otherwise the last of these classes has the tag for
itself. A tag that is not declared is the name of the class, so the tags that classes get by
their places differ, and of two classes with one tag one has declared it.

## Main definitions

* `Store.After`: A class is completed after another one.
* `Store.Shadows`: It has the same tag in the same hierarchy, too.
* `OneTag.store`: Three classes of which two declare one tag.

## Theorems

* `pairwise_after`: The classes of a built store stand in the order of completion.
* `tagged?_eq_some_iff`: The class that has a tag for itself.
* `exists_declared_of_shadows`: Of two classes with one tag one has declared its tag.
* `found_by_own_tag`: Which class is found by the tag of a class.
-/

namespace DocumentMapper

namespace Store

/-- A class is completed after another one: it is deeper in its hierarchy, or as deep and
    later by name. -/
def After (s : Store) (p q : Placed) : Prop :=
  (s.lineage p.map.name).length < (s.lineage q.map.name).length ∨
    (s.lineage p.map.name).length = (s.lineage q.map.name).length ∧ p.map.name < q.map.name

/-- A class of the same hierarchy that is completed after another one and has its tag. -/
def Shadows (s : Store) (q p : Placed) : Prop :=
  q.root = p.root ∧
    q.map.discriminator.map Discriminator.concreteTag =
      p.map.discriminator.map Discriminator.concreteTag ∧ s.After p q

variable {maps : List ClassMap} {s : Store}

theorem After.asymm {p q : Placed} (h : s.After p q) : ¬ s.After q p := by
  rintro (hdepth | ⟨hdepth, hname⟩) <;> rcases h with hdepth' | ⟨hdepth', hname'⟩
  · omega
  · omega
  · omega
  · exact absurd hname (String.lt_asymm hname')

/-- The classes of a built store stand in the order in which they were completed. -/
theorem pairwise_after (h : build maps = .ok s) : s.classes.Pairwise s.After := by
  have hs := build_hierarchical h
  rcases build_entries h with ⟨entries, hperm, hlineage, hsorted, hplaced⟩
  have hmade := made_placeAll ((latest maps).filterMap ClassMap.base) entries
  rw [← hplaced] at hmade
  -- The sorted keys of the entries are those of the classes.
  have hkeys : entries.map (fun entry => (entry.2.length, entry.1.name)) =
      s.classes.map fun p => ((s.lineage p.map.name).length, p.map.name) := by
    refine map_eq_map_of_forall₂ (forall₂_imp_of_mem hmade ?_) fun _ _ hkey => hkey
    intro entry hentry p hfrom
    rw [hfrom.name, lineage_of_made hs hperm hlineage hmade hentry, List.length_reverse]
  have hentries : (entries.map fun entry => (entry.2.length, entry.1.name)).Pairwise
      fun a b => a.1 < b.1 ∨ a.1 = b.1 ∧ a.2 ≤ b.2 :=
    List.pairwise_map.mpr (hsorted.imp precedes_iff.mp)
  rw [hkeys] at hentries
  refine ((List.pairwise_map.mp hentries).and (List.pairwise_map.mp hs.names)).imp ?_
  rintro p q ⟨hdepth | ⟨hdepth, hle⟩, hne⟩
  · exact .inl hdepth
  · exact .inr ⟨hdepth, lt_of_le_of_ne hle hne⟩

/-- A tag leads to a class exactly if the class has it and no class shadows it. -/
theorem tagged?_eq_some_iff (h : build maps = .ok s) {p : Placed} (hp : p ∈ s.classes)
    {d : Discriminator} (hd : p.map.discriminator = some d) :
    s.tagged? p.root d.concreteTag = some p.map ↔ ∀ q ∈ s.classes, ¬ s.Shadows q p := by
  have htag : p.map.discriminator.map Discriminator.concreteTag = some d.concreteTag := by
    rw [hd]
    rfl
  unfold tagged? Shadows
  dsimp only
  rw [htag]
  -- The search goes backwards, so it finds the class that no other one with the tag comes after.
  have hlast := find?_reverse_of_pairwise (fun _ _ => After.asymm) (pairwise_after h)
    (fun q => q.root == p.root &&
      q.map.discriminator.map Discriminator.concreteTag == some d.concreteTag) hp
    (by rw [htag, beq_self_eq_true, beq_self_eq_true, Bool.and_self])
  simp only [Bool.and_eq_true, beq_iff_eq] at hlast
  constructor
  · intro hfound q hq hshadows
    rcases Option.map_eq_some_iff.mp hfound with ⟨p', hp', hmap⟩
    have hmem : p' ∈ s.classes := List.mem_reverse.mp (List.mem_of_find?_eq_some hp')
    have hsame : p' = p :=
      List.inj_on_of_nodup_map (build_hierarchical h).names hmem hp (congrArg ClassMap.name hmap)
    rw [hsame] at hp'
    exact hlast.mp hp' q hq ⟨hshadows.1, hshadows.2.1⟩ hshadows.2.2
  · intro hnone
    rw [hlast.mpr fun q hq hcarries hafter => hnone q hq ⟨hcarries.1, hcarries.2, hafter⟩]
    rfl

/-- Whoever has the tag of a class for itself is the class or the last one to shadow it. -/
theorem exists_tagged (h : build maps = .ok s) {p : Placed} (hp : p ∈ s.classes)
    {d : Discriminator} (hd : p.map.discriminator = some d) :
    ∃ q ∈ s.classes, (q = p ∨ s.Shadows q p) ∧ (∀ r ∈ s.classes, ¬ s.Shadows r q) ∧
      s.tagged? p.root d.concreteTag = some q.map := by
  have hpass : (p.root == p.root &&
      p.map.discriminator.map Discriminator.concreteTag == some d.concreteTag) = true := by
    rw [hd, Option.map_some, beq_self_eq_true, beq_self_eq_true, Bool.and_self]
  cases hfound : s.classes.reverse.find? fun q => q.root == p.root &&
      q.map.discriminator.map Discriminator.concreteTag == some d.concreteTag with
  | none =>
      exact absurd hpass (List.find?_eq_none.mp hfound p (List.mem_reverse.mpr hp))
  | some q =>
      have hq : q ∈ s.classes := List.mem_reverse.mp (List.mem_of_find?_eq_some hfound)
      have hcarries := List.find?_some hfound
      rw [Bool.and_eq_true, beq_iff_eq, beq_iff_eq] at hcarries
      rcases hcarries with ⟨hroot, htag⟩
      rcases Option.map_eq_some_iff.mp htag with ⟨e, he, hsame⟩
      have htagged : s.tagged? p.root d.concreteTag = some q.map := by
        unfold tagged?
        dsimp only
        rw [hfound]
        rfl
      have hself : s.tagged? q.root e.concreteTag = some q.map := by
        rw [hroot, hsame]
        exact htagged
      refine ⟨q, hq, ?_, (tagged?_eq_some_iff h hq he).mp hself, htagged⟩
      -- Either the class itself is found, or one placed after it, which then shadows it.
      rcases before_of_find?_reverse (pairwise_after h) hfound hp hpass with rfl | hafter
      · exact .inl rfl
      · refine .inr ⟨hroot, ?_, hafter⟩
        rw [htag, hd]
        rfl

/-- What the tag leads to is held against the class that is expected. -/
theorem forDiscriminator_of_tagged? (hs : s.Hierarchical) {p : Placed} (hp : p ∈ s.classes)
    {base tag : String} (hbase : s.isAssignable base p.map.name = true) {c : ClassMap}
    (htag : s.tagged? p.root tag = some c) :
    s.forDiscriminator base tag =
      if s.isAssignable base c.name then .ok c else .error (.unknownDiscriminator base tag) := by
  rcases placed_of_isAssignable hs hp hbase with ⟨q, hq, rfl, hroot, _⟩
  unfold forDiscriminator
  rw [placed?_of_mem hs hq, Option.bind_some, hroot, htag]

end Store

/-! ### Tags that are not declared -/

namespace Discriminator

/-- The tag that a class gets by its place is its name. -/
theorem concreteTag_ofLineage {isAbstract : Bool} {upper : List String} {name : String}
    {d : Discriminator} (h : ofLineage isAbstract (upper ++ [name]) = some d) :
    d.concreteTag = name := by
  rcases upper with _ | ⟨root, _ | ⟨first, rest⟩⟩
  · cases isAbstract <;> cases h
    rfl
  · cases h
    rfl
  · have hchain : some (chain (first :: rest ++ [name])) = some d := by
      cases rest <;> exact h
    rw [← Option.some.inj hchain]
    unfold concreteTag
    dsimp only
    rw [List.getLast?_concat, Option.getD_some]

end Discriminator

theorem Placed.Made.concreteTag {bases : List String} {c : ClassMap} {upper : List String}
    {p : Placed} (h : p.Made bases c (upper ++ [c.name])) (hdeclared : c.discriminator = none)
    {d : Discriminator} (hd : p.map.discriminator = some d) : d.concreteTag = p.map.name := by
  have hplace := h.discriminator
  rw [hd, hdeclared] at hplace
  cases hpoly : p.map.isPolymorphic with
  | false =>
      rw [hpoly] at hplace
      cases hplace
  | true =>
      rw [hpoly, if_pos rfl] at hplace
      rw [h.name]
      exact Discriminator.concreteTag_ofLineage hplace.symm

namespace Store

variable {maps : List ClassMap} {s : Store}

/-- A class whose map declares no tag is tagged with its name. -/
theorem declared_or_named (h : build maps = .ok s) {p : Placed} (hp : p ∈ s.classes)
    {d : Discriminator} (hd : p.map.discriminator = some d) :
    (∃ c ∈ latest maps, c.name = p.map.name ∧ c.discriminator.isSome = true) ∨
      d.concreteTag = p.map.name := by
  rcases build_made h with ⟨entries, hperm, hlineage, hmade⟩
  rcases exists_left_of_forall₂ hmade hp with ⟨⟨c, lineage⟩, hentry, hfrom⟩
  rcases ancestry_eq_append (hlineage _ hentry) with ⟨upper, hupper⟩
  dsimp only at hfrom hupper
  cases hdeclared : c.discriminator with
  | some declared =>
      have hmem : c ∈ latest maps := hperm.mem_iff.mp (List.mem_map.mpr ⟨_, hentry, rfl⟩)
      refine .inl ⟨c, hmem, hfrom.name.symm, ?_⟩
      rw [hdeclared]
      rfl
  | none =>
      rw [hupper] at hfrom
      exact .inr (hfrom.concreteTag hdeclared hd)

/-- Of two classes with one tag one has declared its tag. -/
theorem exists_declared_of_shadows (h : build maps = .ok s) {p q : Placed} (hp : p ∈ s.classes)
    (hq : q ∈ s.classes) {d : Discriminator} (hd : p.map.discriminator = some d)
    (hshadows : s.Shadows q p) :
    ∃ c ∈ latest maps, (c.name = p.map.name ∨ c.name = q.map.name) ∧
      c.discriminator.isSome = true := by
  rcases hshadows with ⟨_, htag, hafter⟩
  rw [hd] at htag
  rcases Option.map_eq_some_iff.mp htag with ⟨e, he, hsame⟩
  rcases declared_or_named h hp hd with ⟨c, hc, hname, hdeclared⟩ | hnamed
  · exact ⟨c, hc, .inl hname, hdeclared⟩
  · rcases declared_or_named h hq he with ⟨c, hc, hname, hdeclared⟩ | hnamed'
    · exact ⟨c, hc, .inr hname, hdeclared⟩
    · -- Otherwise both are tagged with their names, and so they are one class.
      have hone : p = q := List.inj_on_of_nodup_map (build_hierarchical h).names hp hq
        (hnamed.symm.trans (hsame.symm.trans hnamed'))
      rw [hone] at hafter
      exact absurd hafter hafter.asymm

/-- Read where a class above it is expected, a class is found by its own tag exactly if no
    class of its hierarchy with this tag comes after it. Otherwise the last of these has
    taken the tag: it is found, or refused if it is not below the expected class. Classes
    whose class maps declare no tag take no tag from each other. -/
theorem found_by_own_tag (h : build maps = .ok s) {p : Placed} (hp : p ∈ s.classes)
    {d : Discriminator} (hd : p.map.discriminator = some d) {base : String}
    (hbase : s.isAssignable base p.map.name = true) :
    (s.forDiscriminator base d.concreteTag = .ok p.map ↔ ∀ q ∈ s.classes, ¬ s.Shadows q p) ∧
    (∀ q ∈ s.classes, s.Shadows q p →
      (∃ last ∈ s.classes, s.Shadows last p ∧ (∀ r ∈ s.classes, ¬ s.Shadows r last) ∧
        s.forDiscriminator base d.concreteTag =
          if s.isAssignable base last.map.name then .ok last.map
          else .error (.unknownDiscriminator base d.concreteTag)) ∧
      ∃ c ∈ latest maps, (c.name = p.map.name ∨ c.name = q.map.name) ∧
        c.discriminator.isSome = true) := by
  have hs := build_hierarchical h
  rcases exists_tagged h hp hd with ⟨last, hlast, hcase, hunshadowed, htagged⟩
  have hfound := forDiscriminator_of_tagged? hs hp hbase htagged
  refine ⟨⟨?_, ?_⟩, ?_⟩
  · intro hok
    rw [hfound] at hok
    split at hok
    case isTrue =>
      rw [← tagged?_eq_some_iff h hp hd, htagged, Except.ok.inj hok]
    case isFalse => cases hok
  · intro hnone
    rcases hcase with rfl | hshadows
    · rw [hfound, if_pos hbase]
    · exact absurd hshadows (hnone last hlast)
  · intro q hq hshadows
    refine ⟨⟨last, hlast, ?_, hunshadowed, hfound⟩, exists_declared_of_shadows h hp hq hd hshadows⟩
    rcases hcase with rfl | hcase
    · exact absurd hshadows (hunshadowed q hq)
    · exact hcase

end Store

/-! ### Two classes that declare one tag

Three classes, one below the other, of which the lower two declare the same tag. -/

namespace OneTag

/-- A class of a name below another one, with the tag that it declares. -/
def declared (name : String) (base : Option String) (tag : Option Discriminator) : ClassMap :=
  { ClassMap.concrete name ⟨name, []⟩ with
    base := base
    discriminator := tag }

def maps : List ClassMap :=
  [declared "A" none none, declared "B" (some "A") (some (.single "X")),
    declared "C" (some "B") (some (.single "X"))]

/-- A class in the place it has in the store. -/
def placed (name : String) (base : Option String) (tag : Discriminator) : Placed where
  map := { declared name base (some tag) with
    ownCollection := base.map fun _ => "A"
    isPolymorphic := true }
  root := "A"

def upper : Placed :=
  placed "B" (some "A") (.single "X")

def lower : Placed :=
  placed "C" (some "B") (.single "X")

def store : Store where
  classes := [placed "A" none (.single "A"), upper, lower]

theorem build_maps : Store.build maps = .ok store :=
  Store.build_of_entries
    [(declared "A" none none, ["A"]), (declared "B" (some "A") (some (.single "X")), ["A", "B"]),
      (declared "C" (some "B") (some (.single "X")), ["A", "B", "C"])]
    (List.Perm.refl _) rfl (by decide)

/-- The upper class is not found by its tag, although it is registered. -/
theorem upper_not_found :
    Store.build maps = .ok store ∧ upper ∈ store.classes ∧
      upper.map.discriminator = some (.single "X") ∧
      store.isAssignable "A" upper.map.name = true ∧
      store.forDiscriminator "A" "X" ≠ .ok upper.map ∧
      store.forDiscriminator upper.map.name "X" ≠ .ok upper.map := by
  have hother : (Except.ok lower.map : Except MappingError ClassMap) ≠ .ok upper.map := by
    intro h
    have hname := congrArg ClassMap.name (Except.ok.inj h)
    exact absurd hname (by decide)
  have hroot : store.forDiscriminator "A" "X" = .ok lower.map := rfl
  have hself : store.forDiscriminator upper.map.name "X" = .ok lower.map := rfl
  refine ⟨build_maps, List.mem_cons_of_mem _ List.mem_cons_self, rfl, by decide, ?_, ?_⟩
  · rw [hroot]
    exact hother
  · rw [hself]
    exact hother

/-- The lower one is, as no class comes after it. -/
theorem lower_found :
    Store.build maps = .ok store ∧ lower ∈ store.classes ∧
      lower.map.discriminator = some (.single "X") ∧
      store.isAssignable "A" lower.map.name = true ∧
      store.forDiscriminator "A" "X" = .ok lower.map := by
  have hmem : lower ∈ store.classes :=
    List.mem_cons_of_mem _ (List.mem_cons_of_mem _ List.mem_cons_self)
  have hbase : store.isAssignable "A" lower.map.name = true := by decide
  refine ⟨build_maps, hmem, rfl, hbase,
    (Store.found_by_own_tag build_maps hmem rfl hbase).1.mpr ?_⟩
  rintro q hq ⟨_, _, hafter⟩
  have hdepth : ∀ q ∈ store.classes, (store.lineage q.map.name).length < 3 ∨ q.map.name = "C" := by
    decide
  have hlower : (store.lineage lower.map.name).length = 3 := rfl
  rcases hafter with hdeeper | ⟨hsame, hname⟩
  · rcases hdepth q hq with hshallow | hlow
    · omega
    · rw [hlow] at hdeeper
      exact absurd hdeeper (by decide)
  · rcases hdepth q hq with hshallow | hlow
    · omega
    · rw [hlow] at hname
      exact absurd hname (by decide)

end OneTag

end DocumentMapper
