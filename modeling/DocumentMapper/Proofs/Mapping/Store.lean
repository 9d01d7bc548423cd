import DocumentMapper.Proofs.Data.Except
import DocumentMapper.Proofs.Mapping.Ancestry

/-!
# What holds of every store

A store is built by a fold over the class maps, in an order computed from their
lineages. What is proved here does not depend on that order. The fold keeps the name,
the base and the prototype of every class and gives it a root, a place in its
hierarchy and a discriminator, which are all read off its lineage (`Placed.Made`). So
the classes of the store are, one by one, the class maps with their lineages.

Two facts about lineages carry the rest: the lineage of a class is that of its base
with the class appended (`ancestry_of_base`), and so a class has the root of its base.
They are stated on the store as `Store.Hierarchical`, and every built store has that
property. Following bases upwards then never leaves a hierarchy.

## Main definitions

* `Placed.Made`: A placed class comes from a class map and its lineage.
* `Store.placeAll`: The classes of class maps with their lineages, one after another.
* `Store.Hierarchical`: Names differ, and bases are there with the same root.

## Theorems

* `nodup_latest`: Of maps with one name one is kept.
* `build_entries`, `build_made`: The classes of a built store, in order and one by one.
* `build_of_entries`: The entries of class maps in their order give the store.
* `Placed.Made.of_extends`, `Placed.Made.tagged`: What a lineage says about a placed class.
* `build_hierarchical`: Every built store is hierarchical.
* `placed?_of_mem`: A class is found by its name.
* `placed_of_isAssignable`: A class above another one is in the store under its root.
-/

namespace DocumentMapper

theorem latest_subset (maps : List ClassMap) : latest maps ⊆ maps := by
  induction maps with
  | nil => exact List.Subset.refl _
  | cons c rest ih =>
      intro x hx
      rw [latest] at hx
      by_cases h : (findClass? rest c.name).isSome = true
      · rw [if_pos h] at hx
        exact List.mem_cons_of_mem c (ih hx)
      · rw [if_neg h] at hx
        rcases List.mem_cons.mp hx with rfl | hx
        · exact List.mem_cons_self
        · exact List.mem_cons_of_mem c (ih hx)

theorem nodup_latest (maps : List ClassMap) : ((latest maps).map ClassMap.name).Nodup := by
  induction maps with
  | nil => exact List.nodup_nil
  | cons c rest ih =>
      rw [latest]
      by_cases h : (findClass? rest c.name).isSome = true
      · rw [if_pos h]
        exact ih
      · rw [if_neg h, List.map_cons, List.nodup_cons]
        refine ⟨?_, ih⟩
        intro hmem
        rcases List.mem_map.mp hmem with ⟨x, hx, hname⟩
        refine find?_key_eq_none.mp (Option.not_isSome_iff_eq_none.mp h) ?_
        exact List.mem_map.mpr ⟨x, latest_subset rest hx, hname⟩

/-- A class with its lineage, as far as it has one. -/
def withLineage (maps : List ClassMap) (c : ClassMap) : ClassMap × List String :=
  (c, (ancestry maps c).toOption.getD [])

theorem withLineage_eq {maps : List ClassMap} {c : ClassMap} {lineage : List String}
    (h : ancestry maps c = .ok lineage) : withLineage maps c = (c, lineage) := by
  unfold withLineage
  rw [h]
  rfl

/-- The walks from all classes of a list end well if each of them does. -/
theorem mapM_ancestry {maps : List ClassMap}
    (h : ∀ c ∈ maps, ∃ lineage, ancestry maps c = .ok lineage) :
    maps.mapM (fun c => do return (c, ← ancestry maps c)) =
      (.ok (maps.map (withLineage maps)) : Except MappingError _) := by
  rw [Except.mapM_eq_ok, List.forall₂_map_right_iff, List.forall₂_same]
  intro c hc
  rcases h c hc with ⟨lineage, hlineage⟩
  rw [withLineage_eq hlineage, hlineage]
  rfl

/-! ### The classes of a store -/

/-- A placed class comes from a class map and its lineage: its name, base and prototype
    are kept, and its place in the hierarchy is read off the lineage. -/
structure Placed.Made (bases : List String) (c : ClassMap) (lineage : List String)
    (p : Placed) : Prop where
  name : p.map.name = c.name
  base : p.map.base = c.base
  prototype : p.map.prototype = c.prototype
  root : p.root = lineage.headD c.name
  polymorphic : p.map.isPolymorphic = (decide (1 < lineage.length) || bases.contains c.name)
  discriminator : p.map.discriminator =
    if p.map.isPolymorphic then
      c.discriminator.orElse fun _ => Discriminator.ofLineage c.isAbstract lineage
    else c.discriminator

namespace Store

/-- One step of the fold adds one class at the end. -/
theorem place_classes (s : Store) (bases : List String) (c : ClassMap) (lineage : List String) :
    ∃ p : Placed, p.Made bases c lineage ∧
      (s.place c lineage (bases.contains c.name)).classes = s.classes ++ [p] := by
  unfold place
  cases c.base.bind s.find? with
  | none => exact ⟨_, ⟨rfl, rfl, rfl, rfl, rfl, rfl⟩, rfl⟩
  | some base => exact ⟨_, ⟨rfl, rfl, rfl, rfl, rfl, rfl⟩, rfl⟩

/-- The fold adds the classes of its entries in order. -/
theorem foldl_place (bases : List String) (entries : List (ClassMap × List String)) :
    ∀ s : Store, ∃ added : List Placed,
      List.Forall₂ (fun entry p => p.Made bases entry.1 entry.2) entries added ∧
      (entries.foldl (fun s entry => s.place entry.1 entry.2 (bases.contains entry.1.name))
        s).classes = s.classes ++ added := by
  induction entries with
  | nil =>
      intro s
      exact ⟨[], List.Forall₂.nil, (List.append_nil _).symm⟩
  | cons entry rest ih =>
      intro s
      rcases s.place_classes bases entry.1 entry.2 with ⟨p, hp, hplace⟩
      rcases ih (s.place entry.1 entry.2 (bases.contains entry.1.name)) with ⟨added, hadded, hfold⟩
      refine ⟨p :: added, List.Forall₂.cons hp hadded, ?_⟩
      rw [List.foldl_cons, hfold, hplace, List.append_assoc, List.singleton_append]

theorem precedes_iff {a b : ClassMap × List String} :
    precedes a b = true ↔ a.2.length < b.2.length ∨
      a.2.length = b.2.length ∧ a.1.name ≤ b.1.name := by
  unfold precedes
  rw [Bool.or_eq_true, Bool.and_eq_true, decide_eq_true_iff, beq_iff_eq, decide_eq_true_iff]

/-- Sorted entries are in the order of their depths. -/
theorem pairwise_sorted (entries : List (ClassMap × List String)) :
    (entries.mergeSort precedes).Pairwise fun a b => precedes a b = true := by
  refine List.pairwise_mergeSort ?_ ?_ entries
  · intro a b c hab hbc
    rw [precedes_iff] at hab hbc ⊢
    -- By length first and by name among equal lengths.
    rcases hab with hab | ⟨hab, hname⟩ <;> rcases hbc with hbc | ⟨hbc, hname'⟩
    · exact .inl (by omega)
    · exact .inl (by omega)
    · exact .inl (by omega)
    · exact .inr ⟨hab.trans hbc, String.le_trans hname hname'⟩
  · intro a b
    rw [Bool.or_eq_true, precedes_iff, precedes_iff]
    rcases Nat.lt_trichotomy a.2.length b.2.length with hlt | heq | hgt
    · exact .inl (.inl hlt)
    · rcases String.le_total a.1.name b.1.name with hname | hname
      · exact .inl (.inr ⟨heq, hname⟩)
      · exact .inr (.inr ⟨heq.symm, hname⟩)
    · exact .inr (.inl hgt)

/-- The classes of some entries, placed one after another. -/
def placeAll (bases : List String) (entries : List (ClassMap × List String)) : Store :=
  entries.foldl (fun s entry => s.place entry.1 entry.2 (bases.contains entry.1.name)) empty

/-- A built store places the class maps with their lineages in the order of their depths. -/
theorem build_entries {maps : List ClassMap} {s : Store} (h : build maps = .ok s) :
    ∃ entries : List (ClassMap × List String),
      (entries.map Prod.fst).Perm (latest maps) ∧
      (∀ entry ∈ entries, ancestry (latest maps) entry.1 = .ok entry.2) ∧
      (entries.Pairwise fun a b => precedes a b = true) ∧
      s = placeAll ((latest maps).filterMap ClassMap.base) entries := by
  unfold build at h
  rcases Except.bind_eq_ok.mp h with ⟨lineages, hlineages, h⟩
  have hitems := Except.mapM_eq_ok.mp hlineages
  have hperm := List.mergeSort_perm lineages precedes
  -- Each walk returns the class map with its lineage, so the walks are paired with the maps.
  have hpaired : List.Forall₂ (fun c entry => c = entry.1 ∧
      ancestry (latest maps) entry.1 = .ok entry.2) (latest maps) lineages := by
    refine List.Forall₂.imp ?_ hitems
    intro c entry hentry
    rcases Except.bind_eq_ok.mp hentry with ⟨lineage, hlineage, hpair⟩
    rw [← Except.ok.inj hpair]
    exact ⟨rfl, hlineage⟩
  refine ⟨lineages.mergeSort precedes, ?_, ?_, pairwise_sorted lineages, (Except.ok.inj h).symm⟩
  · have hnames : (latest maps).map id = lineages.map Prod.fst :=
      map_eq_map_of_forall₂ hpaired fun _ _ h => h.1
    rw [List.map_id] at hnames
    rw [hnames]
    exact hperm.map Prod.fst
  · intro entry hentry
    rcases exists_left_of_forall₂ hpaired (hperm.mem_iff.mp hentry) with ⟨_, _, _, hlineage⟩
    exact hlineage

/-- Every entry gives one class, and they are in the same order. -/
theorem made_placeAll (bases : List String) (entries : List (ClassMap × List String)) :
    List.Forall₂ (fun entry p => p.Made bases entry.1 entry.2) entries
      (placeAll bases entries).classes := by
  rcases foldl_place bases entries empty with ⟨added, hadded, hfold⟩
  unfold placeAll
  rw [hfold]
  exact hadded

/-- The classes of a built store are the class maps with their lineages, one by one. -/
theorem build_made {maps : List ClassMap} {s : Store} (h : build maps = .ok s) :
    ∃ entries : List (ClassMap × List String),
      (entries.map Prod.fst).Perm (latest maps) ∧
      (∀ entry ∈ entries, ancestry (latest maps) entry.1 = .ok entry.2) ∧
      List.Forall₂ (fun entry p => p.Made ((latest maps).filterMap ClassMap.base) entry.1 entry.2)
        entries s.classes := by
  rcases build_entries h with ⟨entries, hperm, hlineage, _, rfl⟩
  exact ⟨entries, hperm, hlineage, made_placeAll _ entries⟩

end Store

theorem nodup_entries {maps : List ClassMap} {entries : List (ClassMap × List String)}
    (hperm : (entries.map Prod.fst).Perm maps) (hnames : (maps.map ClassMap.name).Nodup) :
    (entries.map fun entry => entry.1.name).Nodup := by
  have hmap := hperm.map ClassMap.name
  rw [List.map_map] at hmap
  exact hmap.nodup_iff.mpr hnames

namespace Store

/-- Of classes with different names none precedes another one that precedes it. -/
theorem eq_of_precedes {entries : List (ClassMap × List String)}
    (hnames : (entries.map fun entry => entry.1.name).Nodup) {a b : ClassMap × List String}
    (ha : a ∈ entries) (hb : b ∈ entries) (hab : precedes a b = true)
    (hba : precedes b a = true) : a = b := by
  rw [precedes_iff] at hab hba
  rcases hab with hab | ⟨_, hab⟩ <;> rcases hba with hba | ⟨_, hba⟩
  · omega
  · omega
  · omega
  · exact List.inj_on_of_nodup_map hnames ha hb (String.le_antisymm hab hba)

/-- The entries of class maps with different names are in one order only. -/
theorem entries_eq_of_perm {entries entries' : List (ClassMap × List String)}
    (hnames : (entries.map fun entry => entry.1.name).Nodup) (hperm : entries'.Perm entries)
    (hsorted : entries.Pairwise fun a b => precedes a b = true)
    (hsorted' : entries'.Pairwise fun a b => precedes a b = true) : entries' = entries := by
  refine List.Perm.eq_of_pairwise ?_ hsorted' hsorted hperm
  intro a b ha hb hab hba
  exact eq_of_precedes hnames (hperm.mem_iff.mp ha) hb hab hba

/-- The entries of a store are the class maps with their lineages, in some order. -/
theorem entries_perm {maps maps' : List ClassMap}
    {entries : List (ClassMap × List String)}
    (hentries : (entries.map Prod.fst).Perm maps')
    (hlineage : ∀ entry ∈ entries, ancestry maps entry.1 = .ok entry.2) :
    entries.Perm (maps'.map (withLineage maps)) := by
  have hsame : (entries.map Prod.fst).map (withLineage maps) = entries := by
    rw [List.map_map]
    refine (List.map_congr_left ?_).trans (List.map_id entries)
    intro entry hentry
    exact withLineage_eq (hlineage entry hentry)
  rw [← hsame]
  exact hentries.map (withLineage maps)

/-- The entries of class maps, once they are in their order, give the store. -/
theorem build_of_entries {maps : List ClassMap} (entries : List (ClassMap × List String))
    (hentries : (entries.map Prod.fst).Perm (latest maps))
    (hlineages : entries.map (fun entry => ancestry (latest maps) entry.1) =
      entries.map fun entry => .ok entry.2)
    (hsorted : entries.Pairwise fun a b => precedes a b = true) :
    build maps = .ok (placeAll ((latest maps).filterMap ClassMap.base) entries) := by
  have hlineage := List.map_inj_left.mp hlineages
  have hwalks : ∀ c ∈ latest maps, ∃ lineage, ancestry (latest maps) c = .ok lineage := by
    intro c hc
    rcases List.mem_map.mp (hentries.mem_iff.mpr hc) with ⟨entry, hentry, rfl⟩
    exact ⟨entry.2, hlineage entry hentry⟩
  have hnames := nodup_entries hentries (nodup_latest maps)
  have hperm := (List.mergeSort_perm _ precedes).trans (entries_perm hentries hlineage).symm
  have hsame := entries_eq_of_perm hnames hperm hsorted (pairwise_sorted _)
  unfold build
  exact Except.bind_eq_ok.mpr ⟨_, mapM_ancestry hwalks, by rw [hsame]; rfl⟩

end Store

/-- The base of a class has an entry too, with a lineage that the class extends. -/
theorem exists_base_entry {maps : List ClassMap} {entries : List (ClassMap × List String)}
    (hperm : (entries.map Prod.fst).Perm maps)
    (hlineage : ∀ entry ∈ entries, ancestry maps entry.1 = .ok entry.2)
    {entry : ClassMap × List String} (hentry : entry ∈ entries) {base : String}
    (hbase : entry.1.base = some base) :
    ∃ parent ∈ entries, parent.1.name = base ∧ entry.2 = parent.2 ++ [entry.1.name] := by
  rcases ancestry_of_base (hlineage entry hentry) hbase with
    ⟨b, upper, hfound, hupper, hextends⟩
  rcases mem_of_findClass? hfound with ⟨hb, hname⟩
  rcases List.mem_map.mp (hperm.mem_iff.mpr hb) with ⟨parent, hparent, rfl⟩
  have hown := hlineage parent hparent
  rw [hupper] at hown
  refine ⟨parent, hparent, hname, ?_⟩
  rw [← Except.ok.inj hown]
  exact hextends

/-! ### Hierarchies -/

/-- Classes have different names; a base is in the store under the same root, and both
    are known to belong to a hierarchy; and a class of a hierarchy of which there are
    entities has a discriminator. -/
structure Store.Hierarchical (s : Store) : Prop where
  names : (s.classes.map fun p => p.map.name).Nodup
  base : ∀ p ∈ s.classes, ∀ b, p.map.base = some b →
    ∃ q ∈ s.classes, q.map.name = b ∧ q.root = p.root ∧ q.map.isPolymorphic = true ∧
      p.map.isPolymorphic = true
  tagged : ∀ p ∈ s.classes, p.map.isPolymorphic = true → p.map.isAbstract = false →
    p.map.discriminator.isSome = true

theorem Discriminator.ofLineage_isSome {lineage : List String} (h : lineage ≠ []) :
    (Discriminator.ofLineage false lineage).isSome = true := by
  match lineage, h with
  | [_], _ => rfl
  | [_, _], _ => rfl
  | _ :: _ :: _ :: _, _ => rfl

/-- A class and its base are under the same root, and both belong to a hierarchy. -/
theorem Placed.Made.of_extends {bases : List String} {c parent : ClassMap}
    {lineage upper : List String} {p q : Placed} (hp : p.Made bases c lineage)
    (hq : q.Made bases parent upper) (hextends : lineage = upper ++ [c.name]) (hupper : upper ≠ [])
    (hbase : bases.contains parent.name = true) :
    q.root = p.root ∧ q.map.isPolymorphic = true ∧ p.map.isPolymorphic = true := by
  have hpos : 0 < upper.length := List.length_pos_iff.mpr hupper
  have hlong : 1 < lineage.length := by
    rw [hextends, List.length_append, List.length_singleton]
    omega
  refine ⟨?_, ?_, ?_⟩
  · rw [hq.root, hp.root, hextends]
    cases upper with
    | nil => exact absurd rfl hupper
    | cons root below => rfl
  · rw [hq.polymorphic, hbase, Bool.or_true]
  · rw [hp.polymorphic, decide_eq_true hlong, Bool.true_or]

/-- A declared discriminator is kept, and else the lineage gives one. -/
theorem Placed.Made.tagged {bases : List String} {c : ClassMap} {lineage : List String} {p : Placed}
    (hp : p.Made bases c lineage) (hlineage : lineage ≠ [])
    (hpolymorphic : p.map.isPolymorphic = true) (hconcrete : p.map.isAbstract = false) :
    p.map.discriminator.isSome = true := by
  have hconcrete' : c.isAbstract = false := by
    rw [← hconcrete]
    unfold ClassMap.isAbstract
    rw [hp.prototype]
  rw [hp.discriminator, if_pos hpolymorphic, hconcrete']
  cases c.discriminator with
  | some d => rfl
  | none => exact Discriminator.ofLineage_isSome hlineage

theorem ancestry_ne_nil {maps : List ClassMap} {c : ClassMap} {lineage : List String}
    (h : ancestry maps c = .ok lineage) : lineage ≠ [] := by
  rcases ancestry_eq_append h with ⟨upper, rfl⟩
  exact List.concat_ne_nil c.name upper

namespace Store

theorem build_hierarchical {maps : List ClassMap} {s : Store} (h : build maps = .ok s) :
    s.Hierarchical := by
  rcases build_made h with ⟨entries, hperm, hlineage, hmade⟩
  constructor
  case names =>
    have hnames : entries.map (fun entry => entry.1.name) = s.classes.map fun p => p.map.name :=
      map_eq_map_of_forall₂ hmade fun _ _ hp => hp.name.symm
    rw [← hnames]
    exact nodup_entries hperm (nodup_latest maps)
  case base =>
    intro p hp b hb
    rcases exists_left_of_forall₂ hmade hp with ⟨⟨c, lineage⟩, hentry, hfrom⟩
    have hbase : c.base = some b := by rw [← hfrom.base, hb]
    rcases exists_base_entry hperm hlineage hentry hbase with
      ⟨⟨parent, upper⟩, hparent, rfl, hextends⟩
    rcases exists_right_of_forall₂ hmade hparent with ⟨q, hq, hfrom'⟩
    -- The names of bases are taken from all class maps, and the class is one of them.
    have hmem : c ∈ latest maps := hperm.mem_iff.mp (List.mem_map.mpr ⟨_, hentry, rfl⟩)
    have hisBase : ((latest maps).filterMap ClassMap.base).contains parent.name = true :=
      List.contains_iff_mem.mpr (List.mem_filterMap.mpr ⟨c, hmem, hbase⟩)
    exact ⟨q, hq, hfrom'.name,
      hfrom.of_extends hfrom' hextends (ancestry_ne_nil (hlineage _ hparent)) hisBase⟩
  case tagged =>
    intro p hp hpolymorphic hconcrete
    rcases exists_left_of_forall₂ hmade hp with ⟨⟨c, lineage⟩, hentry, hfrom⟩
    exact hfrom.tagged (ancestry_ne_nil (hlineage _ hentry)) hpolymorphic hconcrete

variable {s : Store}

theorem mem_of_placed? {name : String} {p : Placed} (h : s.placed? name = some p) :
    p ∈ s.classes ∧ p.map.name = name :=
  mem_of_find?_key h

/-- A class is found by its name. -/
theorem placed?_of_mem (hs : s.Hierarchical) {p : Placed} (hp : p ∈ s.classes) :
    s.placed? p.map.name = some p :=
  find?_of_nodup hs.names hp

theorem find?_of_mem (hs : s.Hierarchical) {p : Placed} (hp : p ∈ s.classes) :
    s.find? p.map.name = some p.map := by
  unfold find?
  rw [placed?_of_mem hs hp]
  rfl

theorem exists_placed_of_find? {name : String} {c : ClassMap} (h : s.find? name = some c) :
    ∃ p ∈ s.classes, p.map = c ∧ c.name = name := by
  unfold find? at h
  rcases Option.map_eq_some_iff.mp h with ⟨p, hp, rfl⟩
  rcases mem_of_placed? hp with ⟨hmem, hname⟩
  exact ⟨p, hmem, rfl, hname⟩

theorem mem_lineageWithin (hs : s.Hierarchical) {base : String} :
    ∀ (steps : Nat) (p : Placed), p ∈ s.classes → base ∈ s.lineageWithin steps p.map.name →
      ∃ q ∈ s.classes, q.map.name = base ∧ q.root = p.root ∧
        (q = p ∨ q.map.isPolymorphic = true ∧ p.map.isPolymorphic = true) := by
  intro steps
  induction steps with
  | zero =>
      intro p _ hbase
      cases hbase
  | succ steps ih =>
      intro p hp hbase
      rw [lineageWithin, find?_of_mem hs hp, Option.bind_some] at hbase
      rcases List.mem_cons.mp hbase with rfl | hbase
      · exact ⟨p, hp, rfl, rfl, Or.inl rfl⟩
      · cases hb : p.map.base with
        | none =>
            rw [hb] at hbase
            cases hbase
        | some b =>
            rw [hb] at hbase
            rcases hs.base p hp b hb with ⟨above, habove, rfl, hroot, hpoly, hpoly'⟩
            rcases ih above habove hbase with ⟨q, hq, hname, hroot', hcase⟩
            refine ⟨q, hq, hname, hroot'.trans hroot, Or.inr ⟨?_, hpoly'⟩⟩
            -- Above the first step both ends belong to a hierarchy, since one has a base and one is
            -- a base.
            rcases hcase with rfl | ⟨hq', _⟩
            · exact hpoly
            · exact hq'

/-- A class that another one is assignable to is in the store under the same root; they
    are one class, or both belong to a hierarchy. -/
theorem placed_of_isAssignable (hs : s.Hierarchical) {p : Placed} (hp : p ∈ s.classes)
    {base : String} (h : s.isAssignable base p.map.name = true) :
    ∃ q ∈ s.classes, q.map.name = base ∧ q.root = p.root ∧
      (q = p ∨ q.map.isPolymorphic = true ∧ p.map.isPolymorphic = true) :=
  mem_lineageWithin hs (s.size + 1) p hp (List.contains_iff_mem.mp h)

end Store

end DocumentMapper
