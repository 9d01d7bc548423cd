import DocumentMapper.Proofs.Mapping.Store

/-!
# Lists of class maps that have a store

Building follows every class up to its root, and that walk ends (`climbs_ancestry`). It ends
well exactly along a `RootPath`, so a list has a store exactly if every class of it has a path
to a root. Neither a path nor what a walk comes to depends on the order of the list, and the
order in which the classes are completed is a strict one by depth and name. So in whatever
order the class maps are registered, the store is the same one (`build_of_perm`). This covers
the order in which the walks are taken as well, which decides no more than which of several
failures is reported.

## Main definitions

* `RootPath`: Classes that lead to a root, each the base of the one before.
* `Parcels.list`, `Parcels.cyclic`: Classes with one tag, and a cycle above a class.

## Theorems

* `ancestry_eq_ok_iff`: The lineage of a class is read off its path to a root.
* `exists_build_iff`: A store is built if every class has a lineage.
* `build_of_perm`: The order of registration does not matter.
* `build_by_rooted_paths`: Which lists have a store, and that all their orders have the same.
-/

namespace DocumentMapper

variable {maps maps' : List ClassMap}

/-! ### Paths to a root -/

/-- Classes of a list that lead upwards to a root: each of them has the next one as its base,
    the last one has none, and none of them comes twice. -/
structure RootPath (maps path : List ClassMap) : Prop where
  within : ∀ c ∈ path, c ∈ maps
  links : path.IsChain fun c b => c.base = some b.name
  root : ∀ c, path.getLast? = some c → c.base = none
  distinct : (path.map ClassMap.name).Nodup

/-- A walk that ends well has gone along classes of the list to one without a base, and has
    put their names before the lineage. -/
theorem Climbs.exists_path {c : ClassMap} {lineage result : List String} {count : Nat}
    {outcome : Except MappingError (List String)} (h : Climbs maps c lineage count outcome)
    (hresult : outcome = .ok result) (hnodup : lineage.Nodup) :
    ∃ above : List ClassMap, (∀ b ∈ above, b ∈ maps) ∧
      (c :: above).IsChain (fun c b => c.base = some b.name) ∧
      (∀ top, (c :: above).getLast? = some top → top.base = none) ∧
      result = (above.map ClassMap.name).reverse ++ lineage ∧ result.Nodup := by
  induction h with
  | @root c lineage hbase =>
      rcases Except.ok.inj hresult with rfl
      refine ⟨[], List.forall_mem_nil _, List.IsChain.singleton c, ?_, rfl, hnodup⟩
      intro top htop
      rcases Option.some.inj htop with rfl
      exact hbase
  | cycle _ _ => cases hresult
  | missing _ _ _ => cases hresult
  | @up c b lineage base count outcome hbase hnew hfound _ ih =>
      rcases mem_of_findClass? hfound with ⟨hb, rfl⟩
      rcases ih hresult (List.nodup_cons.mpr ⟨hnew, hnodup⟩) with
        ⟨above, hwithin, hlinks, hroot, hlineage, hdistinct⟩
      refine ⟨b :: above, List.forall_mem_cons.mpr ⟨hb, hwithin⟩,
        List.isChain_cons_cons.mpr ⟨hbase, hlinks⟩, ?_, ?_, hdistinct⟩
      · rw [List.getLast?_cons_cons]
        exact hroot
      · rw [hlineage, List.map_cons, List.reverse_cons, List.append_assoc, List.singleton_append]

/-- Along classes of the list with different names that are not met yet the walk ends well. -/
theorem climbs_of_path (hnames : (maps.map ClassMap.name).Nodup) (above : List ClassMap) :
    ∀ (c : ClassMap) (lineage : List String), (∀ b ∈ above, b ∈ maps) →
      (c :: above).IsChain (fun c b => c.base = some b.name) →
      (∀ top, (c :: above).getLast? = some top → top.base = none) →
      ((above.map ClassMap.name).reverse ++ lineage).Nodup →
      Climbs maps c lineage above.length (.ok ((above.map ClassMap.name).reverse ++ lineage)) := by
  induction above with
  | nil =>
      intro c lineage _ _ hroot _
      exact .root (hroot c rfl)
  | cons b above ih =>
      intro c lineage hwithin hlinks hroot hdistinct
      rcases List.isChain_cons_cons.mp hlinks with ⟨hbase, hlinks⟩
      rcases List.forall_mem_cons.mp hwithin with ⟨hb, hwithin⟩
      have hfound : findClass? maps b.name = some b := find?_of_nodup hnames hb
      rw [List.getLast?_cons_cons] at hroot
      rw [List.map_cons, List.reverse_cons, List.append_assoc, List.singleton_append]
        at hdistinct ⊢
      have hnew : b.name ∉ lineage := (List.nodup_cons.mp (List.nodup_append.mp hdistinct).2.1).1
      exact .up hbase hnew hfound (ih b (b.name :: lineage) hwithin hlinks hroot hdistinct)

/-- The lineage of a class is there exactly if there is a path to a root, and consists of the
    names on this path, the root first. -/
theorem ancestry_eq_ok_iff (hnames : (maps.map ClassMap.name).Nodup) {c : ClassMap} (hc : c ∈ maps)
    {lineage : List String} :
    ancestry maps c = .ok lineage ↔
      ∃ above, RootPath maps (c :: above) ∧
        lineage = ((c :: above).map ClassMap.name).reverse := by
  rcases climbs_ancestry hc with ⟨count, _, hclimbs⟩
  constructor
  · intro hlineage
    rcases hclimbs.exists_path hlineage (List.nodup_singleton _) with
      ⟨above, hwithin, hlinks, hroot, hresult, hdistinct⟩
    rw [← List.reverse_cons, ← List.map_cons] at hresult
    rw [hresult, List.nodup_reverse] at hdistinct
    exact ⟨above, ⟨List.forall_mem_cons.mpr ⟨hc, hwithin⟩, hlinks, hroot, hdistinct⟩, hresult⟩
  · rintro ⟨above, hpath, rfl⟩
    have hdistinct := List.nodup_reverse.mpr hpath.distinct
    rw [List.map_cons, List.reverse_cons] at hdistinct ⊢
    have hwithin := (List.forall_mem_cons.mp hpath.within).2
    -- The walk has one outcome, and the path is a walk.
    exact hclimbs.outcome_eq
      (climbs_of_path hnames above c [c.name] hwithin hpath.links hpath.root hdistinct)

/-! ### Lists that have a store -/

/-- Where names are different all class maps are kept. -/
theorem latest_eq_self (hnames : (maps.map ClassMap.name).Nodup) : latest maps = maps := by
  induction maps with
  | nil => rfl
  | cons c rest ih =>
      rw [List.map_cons, List.nodup_cons] at hnames
      have hnew : findClass? rest c.name = none := find?_key_eq_none.mpr hnames.1
      rw [latest, hnew, if_neg (by decide), ih hnames.2]

namespace Store

/-- A store is built exactly if every class has a lineage. -/
theorem exists_build_iff :
    (∃ s, build maps = .ok s) ↔
      ∀ c ∈ latest maps, ∃ lineage, ancestry (latest maps) c = .ok lineage := by
  constructor
  · rintro ⟨s, h⟩ c hc
    rcases build_entries h with ⟨entries, hperm, hlineage, _, _⟩
    rcases List.mem_map.mp (hperm.mem_iff.mpr hc) with ⟨entry, hentry, rfl⟩
    exact ⟨entry.2, hlineage entry hentry⟩
  · intro h
    -- A build fails in its walks only; the rest is sorting and placing.
    unfold build
    exact ⟨_, Except.bind_eq_ok.mpr ⟨_, mapM_ancestry h, rfl⟩⟩

end Store

/-! ### The order of registration -/

theorem findClass?_eq_some_iff (hnames : (maps.map ClassMap.name).Nodup) {name : String}
    {c : ClassMap} : findClass? maps name = some c ↔ c ∈ maps ∧ c.name = name := by
  constructor
  · exact mem_of_findClass?
  · rintro ⟨hc, rfl⟩
    exact find?_of_nodup hnames hc

theorem findClass?_of_perm (hnames : (maps.map ClassMap.name).Nodup) (hperm : maps'.Perm maps)
    (name : String) : findClass? maps' name = findClass? maps name := by
  have hnames' : (maps'.map ClassMap.name).Nodup := (hperm.map _).nodup_iff.mpr hnames
  refine Option.ext fun c => ?_
  rw [findClass?_eq_some_iff hnames, findClass?_eq_some_iff hnames', hperm.mem_iff]

/-- A walk depends on the class maps that are found, and on the bound. -/
theorem ancestryWithin_congr (h : ∀ name, findClass? maps' name = findClass? maps name)
    (steps : Nat) : ∀ (c : ClassMap) (lineage : List String),
      ancestryWithin maps' steps c lineage = ancestryWithin maps steps c lineage := by
  induction steps with
  | zero => exact fun _ _ => rfl
  | succ steps ih =>
      intro c lineage
      simp only [ancestryWithin, h, ih]

/-- In every order of the list the walk from a class comes to the same, failures included. -/
theorem ancestry_of_perm (hnames : (maps.map ClassMap.name).Nodup) (hperm : maps'.Perm maps)
    (c : ClassMap) : ancestry maps' c = ancestry maps c := by
  unfold ancestry
  rw [hperm.length_eq, ancestryWithin_congr (findClass?_of_perm hnames hperm)]

namespace Store

/-- Placing classes depends only on which names are those of bases. -/
theorem placeAll_congr {bases bases' : List String}
    (h : ∀ name, name ∈ bases' ↔ name ∈ bases) (entries : List (ClassMap × List String)) :
    placeAll bases' entries = placeAll bases entries := by
  have hcontains : ∀ name, bases'.contains name = bases.contains name := by
    intro name
    rw [Bool.eq_iff_iff, List.contains_iff_mem, List.contains_iff_mem, h]
  unfold placeAll
  simp only [hcontains]

/-- In whatever order class maps with different names are registered, the store is the same. -/
theorem build_of_perm (hnames : (maps.map ClassMap.name).Nodup) (hperm : maps'.Perm maps)
    {s : Store} (h : build maps = .ok s) : build maps' = .ok s := by
  have hnames' : (maps'.map ClassMap.name).Nodup := (hperm.map _).nodup_iff.mpr hnames
  rcases build_entries h with ⟨entries, hentries, hlineage, hsorted, hs⟩
  rw [latest_eq_self hnames] at hentries hlineage hs
  -- The entries of the one list are entries of the other as well.
  have hlineage' : ∀ entry ∈ entries, ancestry (latest maps') entry.1 = .ok entry.2 := by
    intro entry hentry
    rw [latest_eq_self hnames', ancestry_of_perm hnames hperm]
    exact hlineage entry hentry
  have hentries' : (entries.map Prod.fst).Perm (latest maps') := by
    rw [latest_eq_self hnames']
    exact hentries.trans hperm.symm
  have hbases : ∀ name,
      name ∈ maps'.filterMap ClassMap.base ↔ name ∈ maps.filterMap ClassMap.base :=
    fun name => (hperm.filterMap ClassMap.base).mem_iff
  rw [build_of_entries entries hentries' (List.map_congr_left hlineage') hsorted,
    latest_eq_self hnames', placeAll_congr hbases, hs]

end Store

/-- For class maps with different names, the walk upwards from every class ends and goes to
    fewer bases than there are classes, so that building comes to an end. It gives a store
    exactly if every class leads to a root, within the list and without meeting a class
    twice. In any other order the same class maps are refused as well, or they have a store
    that gives the same answers: which class map a name has, which classes are assignable to
    which, and which class a tag names where a class is expected. -/
theorem build_by_rooted_paths {maps : List ClassMap} (hnames : (maps.map ClassMap.name).Nodup) :
    (∀ c ∈ maps, ∃ count, count < maps.length ∧
      Climbs maps c [c.name] count (ancestry maps c)) ∧
    ((∃ s, Store.build maps = .ok s) ↔ ∀ c ∈ maps, ∃ above, RootPath maps (c :: above)) ∧
    ∀ maps', maps'.Perm maps →
      ((∃ e, Store.build maps = .error e) ∧ ∃ e, Store.build maps' = .error e) ∨
      ∃ s s', Store.build maps = .ok s ∧ Store.build maps' = .ok s' ∧
        (∀ name, s'.classMap name = s.classMap name) ∧
        (∀ base derived, s'.isAssignable base derived = s.isAssignable base derived) ∧
        ∀ base tag, s'.forDiscriminator base tag = s.forDiscriminator base tag := by
  refine ⟨fun c hc => climbs_ancestry hc, ?_, ?_⟩
  · rw [Store.exists_build_iff, latest_eq_self hnames]
    refine forall₂_congr fun c hc => ?_
    constructor
    · rintro ⟨lineage, hlineage⟩
      rcases (ancestry_eq_ok_iff hnames hc).mp hlineage with ⟨above, hpath, _⟩
      exact ⟨above, hpath⟩
    · rintro ⟨above, hpath⟩
      exact ⟨_, (ancestry_eq_ok_iff hnames hc).mpr ⟨above, hpath, rfl⟩⟩
  · intro maps' hperm
    have hnames' : (maps'.map ClassMap.name).Nodup := (hperm.map _).nodup_iff.mpr hnames
    cases hbuild : Store.build maps with
    | ok s =>
        have hbuild' := Store.build_of_perm hnames hperm hbuild
        exact .inr ⟨s, s, rfl, hbuild', fun _ => rfl, fun _ _ => rfl, fun _ _ => rfl⟩
    | error e =>
        cases hbuild' : Store.build maps' with
        | error e' => exact .inl ⟨⟨e, rfl⟩, ⟨e', rfl⟩⟩
        | ok s' =>
            -- A store for this order would be one for the other as well.
            rw [Store.build_of_perm hnames' hperm.symm hbuild'] at hbuild
            cases hbuild

/-! ### Parcels

Two classes of one depth with one tag, for which the order decides, and classes below a cycle. -/

namespace Parcels

/-- A root. -/
def parcel : ClassMap :=
  .abstractType "Parcel"

def letter : ClassMap :=
  { ClassMap.abstractType "Letter" with
    base := some "Parcel"
    discriminator := some (.single "post") }

def card : ClassMap :=
  { letter with name := "Card" }

def list : List ClassMap :=
  [letter, card, parcel]

/-- The first class is below the cycle and not on it. -/
def cyclic : List ClassMap :=
  [{ ClassMap.abstractType "Stamp" with base := some "Label" },
    { ClassMap.abstractType "Label" with base := some "Sticker" },
    { ClassMap.abstractType "Sticker" with base := some "Label" }]

theorem registered_in_any_order :
    (list.map ClassMap.name).Nodup ∧ (cyclic.map ClassMap.name).Nodup ∧
      (∀ maps', maps'.Perm list → ∃ s, Store.build maps' = .ok s ∧
        (s.forDiscriminator "Parcel" "post").map ClassMap.name = .ok "Letter") ∧
      (∀ maps', maps'.Perm cyclic → ∃ e, Store.build maps' = .error e) ∧
      ¬ ∀ c ∈ cyclic, ∃ above, RootPath cyclic (c :: above) := by
  have hlist : (list.map ClassMap.name).Nodup := by decide
  have hcyclic : (cyclic.map ClassMap.name).Nodup := by decide
  rcases build_by_rooted_paths hlist with ⟨_, _, horders⟩
  rcases build_by_rooted_paths hcyclic with ⟨_, hrooted, hcyclicOrders⟩
  have hfound : ∃ s, Store.build list = .ok s ∧
      (s.forDiscriminator "Parcel" "post").map ClassMap.name = .ok "Letter" := by
    refine ⟨_, Store.build_of_entries
      [(parcel, ["Parcel"]), (card, ["Parcel", "Card"]), (letter, ["Parcel", "Letter"])]
      (List.reverse_perm [letter, card, parcel]) rfl (by decide), rfl⟩
  have hrefused : Store.build cyclic = .error (.inheritanceCycle "Label") := by rfl
  refine ⟨hlist, hcyclic, ?_, ?_, ?_⟩
  · intro maps' hperm
    rcases hfound with ⟨s, hs, hletter⟩
    rcases horders maps' hperm with ⟨⟨e, he⟩, _⟩ | ⟨t, s', ht, hs', _, _, hanswer⟩
    · rw [hs] at he
      cases he
    · rw [hs] at ht
      rcases Except.ok.inj ht with rfl
      refine ⟨s', hs', ?_⟩
      rw [hanswer]
      exact hletter
  · intro maps' hperm
    rcases hcyclicOrders maps' hperm with ⟨_, hrefused'⟩ | ⟨s, _, hs, _⟩
    · exact hrefused'
    · rw [hrefused] at hs
      cases hs
  · rw [← hrooted, hrefused]
    rintro ⟨s, hs⟩
    cases hs

end Parcels

end DocumentMapper
