import DocumentMapper.Proofs.Mapping.Inheritance
import Mathlib.Logic.Relation

/-!
# The layout of subclasses

A class keeps the layout of the classes above it. Their members come first, in their order
and under their names, and a member that a class declares again stays in its place and keeps
the stored name that it has above, while everything else of it is the class's own
(`ClassMap.Redeclares`). One step to the base is read off the completion of a class from its
complete base. A step further up only needs that the base has kept names and places itself,
whatever was declared again in between (`Redeclares.of_extends`).

The names of the collection and of the discriminator are handed down a step at a time, each
with its default: a base without a collection of its own hands down its own name.

What a class declares itself is read in the list that the store is built from
(`ownMap?`), and so are its bases (`Derives`), so all of this is said about the list.

## Main definitions

* `ownMap?`: The class map of a name in a list.
* `Derives`: A class and the base that its class map names.
* `ClassMap.Redeclares`: Members that are declared again keep place and stored name.
* `Vessels.store`: A hierarchy of three levels.

## Theorems

* `redeclares_inherit`, `Redeclares.of_extends`: One step to the base, and one further up.
* `build_inherits`: A class in a built store and its base there.
* `discriminator_of_base`: A class with a base has a discriminator.
* `layout_of_build`: The layout of every class of a hierarchy.
-/

namespace DocumentMapper

/-- The class map that a list has for a name: of several the last one. -/
def ownMap? (maps : List ClassMap) (name : String) : Option ClassMap :=
  findClass? (latest maps) name

/-- A class and the base that its class map names. -/
def Derives (maps : List ClassMap) (derived base : String) : Prop :=
  ∃ own, ownMap? maps derived = some own ∧ own.base = some base

namespace ClassMap

/-- The members of a class that are declared again by a class map are the declared ones in
    another class, in the old places and under the old stored names. -/
def Redeclares (own above c : ClassMap) : Prop :=
  ∀ (i : Nat) (m redeclared : Member), above.members[i]? = some m →
    own.members.find? (·.name = m.name) = some redeclared →
    c.members[i]? = some (redeclared.withStoredName m.storedName)

theorem redeclares_inherit (own base : ClassMap) (lineage : List String) (isBase : Bool) :
    own.Redeclares base ((own.inherit base).place lineage isBase) := by
  intro i m redeclared hm hredeclared
  change (inheritMembers base.members own.members)[i]? = _
  have hlt : i < base.members.length := (List.getElem?_eq_some_iff.mp hm).1
  unfold inheritMembers
  dsimp only
  rw [List.getElem?_append_left (by rwa [List.length_map]), List.getElem?_map, hm, Option.map_some,
    hredeclared]

/-- Names that are kept are kept in their places. -/
theorem Extends.getElem? {c above : ClassMap} (h : c.Extends above) {i : Nat} {m : Member}
    (hm : above.members[i]? = some m) : ∃ m', c.members[i]? = some m' ∧ m'.names = m.names := by
  rcases h.members with ⟨more, hmore⟩
  have hlt : i < (above.members.map Member.names).length := by
    rw [List.length_map]
    exact (List.getElem?_eq_some_iff.mp hm).1
  have hnames : (c.members.map Member.names)[i]? = some m.names := by
    rw [← hmore, List.getElem?_append_left hlt, List.getElem?_map, hm, Option.map_some]
  rw [List.getElem?_map] at hnames
  exact Option.map_eq_some_iff.mp hnames

/-- Further up, a member has the names that it has in the base. -/
theorem Redeclares.of_extends {own base above c : ClassMap} (h : own.Redeclares base c)
    (hbase : base.Extends above) : own.Redeclares above c := by
  intro i m redeclared hm hredeclared
  rcases hbase.getElem? hm with ⟨m', hm', hnames⟩
  rcases Prod.mk.inj hnames with ⟨hname, hstored⟩
  rw [← hstored]
  exact h i m' redeclared hm' (hname ▸ hredeclared)

theorem collectionName_inherit (own base : ClassMap) (lineage : List String) (isBase : Bool) :
    ((own.inherit base).place lineage isBase).collectionName =
      own.ownCollection.getD base.collectionName := by
  change (own.ownCollection.orElse fun _ => some base.collectionName).getD own.name = _
  cases own.ownCollection <;> rfl

theorem discriminatorName_inherit (own base : ClassMap) (lineage : List String) (isBase : Bool) :
    ((own.inherit base).place lineage isBase).discriminatorName =
      own.ownDiscriminatorName.getD base.discriminatorName := by
  change (own.ownDiscriminatorName.orElse fun _ => base.ownDiscriminatorName).getD "_t" = _
  cases own.ownDiscriminatorName <;> rfl

end ClassMap

/-- Below a root there are tags, even of an abstract class. -/
theorem Discriminator.ofLineage_isSome_of_lt {isAbstract : Bool} {lineage : List String}
    (h : 1 < lineage.length) : (Discriminator.ofLineage isAbstract lineage).isSome = true := by
  match lineage, h with
  | [_, _], _ => rfl
  | _ :: _ :: _ :: _, _ => rfl

namespace Store

variable {maps : List ClassMap} {s : Store}

/-- A class of a list is in the store, and it is abstract there if it is in the list. -/
theorem exists_placed_of_ownMap? (h : build maps = .ok s) {name : String} {own : ClassMap}
    (hown : ownMap? maps name = some own) :
    ∃ p ∈ s.classes, p.map.name = name ∧ p.map.isAbstract = own.isAbstract := by
  rcases mem_of_findClass? hown with ⟨hmem, rfl⟩
  rcases build_made h with ⟨entries, hperm, _, hmade⟩
  rcases List.mem_map.mp (hperm.mem_iff.mpr hmem) with ⟨entry, hentry, rfl⟩
  rcases exists_right_of_forall₂ hmade hentry with ⟨p, hp, hfrom⟩
  exact ⟨p, hp, hfrom.name, congrArg Option.isNone hfrom.prototype⟩

/-- A class is completed from its class map and from its base in the store, and both belong to
    a hierarchy. -/
theorem build_inherits (h : build maps = .ok s) {derived base : String}
    (hlink : Derives maps derived base) :
    ∃ own d b lineage isBase, ownMap? maps derived = some own ∧ own.base = some base ∧
      s.find? derived = some d ∧ s.find? base = some b ∧
      d = (own.inherit b).place lineage isBase ∧ d.isPolymorphic = true ∧
      b.isPolymorphic = true := by
  have hs := build_hierarchical h
  rcases hlink with ⟨own, hown, hbase⟩
  rcases exists_placed_of_ownMap? h hown with ⟨p, hp, rfl, _⟩
  rcases mem_of_findClass? hown with ⟨hmem, hownName⟩
  rcases build_completed h hp with ⟨c, hc, lineage, isBase, hcompleted⟩
  -- The map that was placed is the one with this name: of maps with one name one is kept.
  have hname : c.name = p.map.name := by
    rcases hcompleted with ⟨_, hmap⟩ | ⟨_, _, _, hmap⟩ <;> rw [hmap] <;> rfl
  have hsame : c = own :=
    List.inj_on_of_nodup_map (nodup_latest maps) hc hmem (hname.trans hownName.symm)
  subst hsame
  rcases hcompleted with ⟨hroot, _⟩ | ⟨q, hq, hbase', hmap⟩
  · rw [hbase] at hroot
    cases hroot
  · rw [hbase] at hbase'
    rcases Option.some.inj hbase' with rfl
    have hpbase : p.map.base = some q.map.name := by
      rw [hmap]
      exact hbase
    rcases hs.base p hp _ hpbase with ⟨q', hq', hq'name, _, hq'polymorphic, hpolymorphic⟩
    have hsame : q' = q := List.inj_on_of_nodup_map hs.names hq' hq hq'name
    subst hsame
    exact ⟨c, p.map, q'.map, lineage, isBase, hown, hbase, find?_of_mem hs hp, find?_of_mem hs hq,
      hmap, hpolymorphic, hq'polymorphic⟩

/-- A class with a base is tagged with its lineage unless it declares a discriminator. -/
theorem discriminator_of_base (h : build maps = .ok s) {p : Placed} (hp : p ∈ s.classes)
    {base : String} (hbase : p.map.base = some base) : p.map.discriminator.isSome = true := by
  rcases (build_hierarchical h).base p hp base hbase with ⟨_, _, _, _, _, hpolymorphic⟩
  rcases build_made h with ⟨entries, hperm, hlineage, hmade⟩
  rcases exists_left_of_forall₂ hmade hp with ⟨entry, hentry, hfrom⟩
  rw [hfrom.base] at hbase
  rcases exists_base_entry hperm hlineage hentry hbase with ⟨parent, hparent, _, hextends⟩
  rcases ancestry_eq_append (hlineage parent hparent) with ⟨above, habove⟩
  -- The lineage ends with the base and the class.
  have hlength : 1 < entry.2.length := by
    rw [hextends, habove, List.length_append, List.length_append, List.length_singleton,
      List.length_singleton]
    omega
  rw [hfrom.discriminator, if_pos hpolymorphic]
  cases entry.1.discriminator with
  | some d => rfl
  | none => exact Discriminator.ofLineage_isSome_of_lt hlength

/-- What a class has from the classes above it. The induction goes up from the class, so the
    step is the one to its base, which has everything from above already. -/
theorem redeclares_of_derives (h : build maps = .ok s) {derived base : String}
    (hderives : Relation.TransGen (Derives maps) derived base) :
    ∃ own d b, ownMap? maps derived = some own ∧ s.find? derived = some d ∧
      s.find? base = some b ∧ d.Extends b ∧ own.Redeclares b d ∧
      d.isPolymorphic = true ∧ b.isPolymorphic = true := by
  induction hderives using Relation.TransGen.head_induction_on with
  | single hlink =>
      rcases build_inherits h hlink with
        ⟨own, d, b, lineage, isBase, hown, _, hd, hb, rfl, hdpolymorphic, hbpolymorphic⟩
      exact ⟨own, _, b, hown, hd, hb, own.extends_inherit b lineage isBase,
        own.redeclares_inherit b lineage isBase, hdpolymorphic, hbpolymorphic⟩
  | head hlink _ ih =>
      rcases build_inherits h hlink with
        ⟨own, d, middle, lineage, isBase, hown, _, hd, hmiddle, rfl, hdpolymorphic, _⟩
      rcases ih with ⟨_, middle', b, _, hmiddle', hb, hextends, _, _, hbpolymorphic⟩
      -- Both links meet at one class, and a name stands for one map only.
      rw [hmiddle] at hmiddle'
      rcases Option.some.inj hmiddle' with rfl
      exact ⟨own, _, b, hown, hd, hb, (own.extends_inherit middle lineage isBase).trans hextends,
        (own.redeclares_inherit middle lineage isBase).of_extends hextends, hdpolymorphic,
        hbpolymorphic⟩

end Store

/-- In a store that is built from a list of class maps, a class with a base, direct or not,
    has the members of the base first, under the same names; those that it declares again
    are its own, in the places and under the stored names of the base; it has an identity if
    the base has one; and both are polymorphic. It has its own collection and discriminator
    name, or else those of its direct base. Every class with a base has a discriminator, and
    so has every concrete class with a subclass, a root or not. -/
theorem layout_of_build {maps : List ClassMap} {s : Store} (h : Store.build maps = .ok s) :
    (∀ derived base, Relation.TransGen (Derives maps) derived base →
      ∃ own d b, ownMap? maps derived = some own ∧ s.find? derived = some d ∧
        s.find? base = some b ∧
        b.members.map Member.names <+: d.members.map Member.names ∧
        (∀ (i : Nat) (m redeclared : Member), b.members[i]? = some m →
          own.members.find? (·.name = m.name) = some redeclared →
          d.members[i]? = some (redeclared.withStoredName m.storedName)) ∧
        (b.identity.isSome = true → d.identity.isSome = true) ∧
        d.isPolymorphic = true ∧ b.isPolymorphic = true) ∧
    (∀ derived own base, ownMap? maps derived = some own → own.base = some base →
      ∃ d b, s.find? derived = some d ∧ s.find? base = some b ∧
        d.collectionName = own.ownCollection.getD b.collectionName ∧
        d.discriminatorName = own.ownDiscriminatorName.getD b.discriminatorName ∧
        d.discriminator.isSome = true) ∧
    ∀ derived base own, Derives maps derived base → ownMap? maps base = some own →
      own.isAbstract = false → ∃ b, s.find? base = some b ∧ b.discriminator.isSome = true := by
  have hs := Store.build_hierarchical h
  refine ⟨?_, ?_, ?_⟩
  · intro derived base hderives
    rcases Store.redeclares_of_derives h hderives with
      ⟨own, d, b, hown, hd, hb, hextends, hredeclares, hpolymorphic⟩
    exact ⟨own, d, b, hown, hd, hb, hextends.members, hredeclares, hextends.identity, hpolymorphic⟩
  · intro derived own base hown hbase
    rcases Store.build_inherits h ⟨own, hown, hbase⟩ with
      ⟨own', d, b, lineage, isBase, hown', _, hd, hb, hmap, _⟩
    rw [hown] at hown'
    rcases Option.some.inj hown' with rfl
    have htagged : d.discriminator.isSome = true := by
      rcases Store.exists_placed_of_find? hd with ⟨p, hp, rfl, _⟩
      have hpbase : p.map.base = some base := by
        rw [hmap]
        exact hbase
      exact Store.discriminator_of_base h hp hpbase
    refine ⟨d, b, hd, hb, ?_, ?_, htagged⟩
    · rw [hmap, ClassMap.collectionName_inherit]
    · rw [hmap, ClassMap.discriminatorName_inherit]
  · intro derived base own hlink hown hconcrete
    rcases Store.build_inherits h hlink with ⟨_, _, b, _, _, _, _, _, hb, _, _, hpolymorphic⟩
    rcases Store.exists_placed_of_ownMap? h hown with ⟨q, hq, rfl, habstract⟩
    rw [Store.find?_of_mem hs hq] at hb
    rcases Option.some.inj hb with rfl
    exact ⟨q.map, Store.find?_of_mem hs hq,
      hs.tagged q hq hpolymorphic (habstract.trans hconcrete)⟩

/-! ### Vessels

Three levels, with a name that is declared again at each of them. -/

namespace Vessels

/-- The concrete root, which names its collection and its discriminator. -/
def vessel : ClassMap :=
  { ClassMap.concrete "Vessel" ⟨"Vessel", [("Id", .null), ("Name", .value (.string ""))]⟩ with
    ownCollection := some "fleet"
    identity := some ⟨"Id", identityName, .objectId, "Vessel", .scalar .objectId⟩
    members := [⟨"Name", "n", .native, "Vessel", .scalar .string⟩]
    ownDiscriminatorName := some "kind" }

def ship : ClassMap :=
  { ClassMap.abstractType "Ship" with
    base := some "Vessel"
    members := [⟨"Draft", "d", .native, "Ship", .scalar .double⟩,
      ⟨"Name", "title", .native, "Ship", .scalar .string⟩] }

/-- The lowest class, which declares all that is above it again and adds a member. -/
def ferry : ClassMap :=
  { ClassMap.abstractType "Ferry" with
    base := some "Ship"
    ownCollection := some "ferries"
    members := [⟨"Decks", "k", .native, "Ferry", .scalar .int32⟩,
      ⟨"Draft", "depth", .native, "Ferry", .scalar .int32⟩,
      ⟨"Name", "title", .any, "Ferry", .scalar .stored⟩] }

def list : List ClassMap :=
  [ferry, ship, vessel]

/-- What the list is completed to. -/
def store : Store :=
  let vessel := vessel.place ["Vessel"] true
  let ship := (ship.inherit vessel).place ["Vessel", "Ship"] true
  ⟨[⟨vessel, "Vessel"⟩, ⟨ship, "Vessel"⟩,
    ⟨(ferry.inherit ship).place ["Vessel", "Ship", "Ferry"] false, "Vessel"⟩]⟩

theorem ferry_derives : Relation.TransGen (Derives list) "Ferry" "Vessel" :=
  .head ⟨ferry, rfl, rfl⟩ (.single ⟨ship, rfl, rfl⟩)

theorem ferry_layout :
    Store.build list = .ok store ∧ ∃ d, store.find? "Ferry" = some d ∧
      [("Name", "n")] <+: d.members.map Member.names ∧
      d.members[0]? = some ⟨"Name", "n", .any, "Ferry", .scalar .stored⟩ ∧
      d.identity.isSome = true ∧ d.collectionName = "ferries" ∧ d.discriminatorName = "kind" ∧
      d.discriminator.isSome = true := by
  have hbuild : Store.build list = .ok store :=
    Store.build_of_entries
      [(vessel, ["Vessel"]), (ship, ["Vessel", "Ship"]), (ferry, ["Vessel", "Ship", "Ferry"])]
      (List.reverse_perm [ferry, ship, vessel]) rfl (by decide)
  rcases layout_of_build hbuild with ⟨hmembers, hnames, _⟩
  rcases hmembers _ _ ferry_derives with
    ⟨own, d, b, hown, hd, hb, hprefix, hredeclared, hidentity, _⟩
  rcases hnames "Ferry" ferry "Ship" rfl rfl with
    ⟨d', b', hd', hb', hcollection, hdiscriminator, htagged⟩
  rcases Option.some.inj (hd.symm.trans hd') with rfl
  rcases Option.some.inj (hown.symm.trans rfl) with rfl
  rcases Option.some.inj (hb.symm.trans rfl) with rfl
  rcases Option.some.inj (hb'.symm.trans rfl) with rfl
  exact ⟨hbuild, d, hd, hprefix, hredeclared 0 _ _ rfl rfl, hidentity rfl, hcollection,
    hdiscriminator, htagged⟩

end Vessels

end DocumentMapper
