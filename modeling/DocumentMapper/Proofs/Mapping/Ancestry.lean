import DocumentMapper.Mapping.Store
import DocumentMapper.Proofs.Data.List
import Mathlib.Data.List.Perm.Basic
import Mathlib.Data.List.Perm.Subperm

/-!
# The walk to the root

The lineage of a class is found by a walk upwards that is bounded by the length of the list.
The bound is there for the sake of the definition only. A walk that goes on for ever would
have to meet new names for ever, and there are only those of the list. So the walk is
described without a bound (`Climbs`), as going from class to base until there is no base, the
base has been met or the base is missing. A walk within its bound comes to the same end, and
the bound is wide enough for every class of the list (`climbs_ancestry`).

What is said of lineages is proved of the walk, by induction on the bases it goes to. One fact
carries the rest: what a walk was begun with stays at the end of its lineage and does not
change what comes before (`Climbs.append`). So the lineage of a class is that of its base with
the class appended.

## Main definitions

* `Climbs`: The walk upwards from a class, without a bound.

## Theorems

* `climbs_of_eq_ok`: A bounded walk that ends well has not met its bound.
* `climbs_ancestry`: Every walk ends, before it has met more classes than there are.
* `ancestry_eq_append`, `ancestry_of_base`: A lineage ends with its class, and extends that of
  the base.
-/

namespace DocumentMapper

theorem mem_of_findClass? {maps : List ClassMap} {name : String} {c : ClassMap}
    (h : findClass? maps name = some c) : c ∈ maps ∧ c.name = name :=
  mem_of_find?_key h

/-- The walk upwards from a class with no bound on its steps. `c` is the first class of the
    lineage so far; the walk goes on to `count` bases before its outcome is clear. -/
inductive Climbs (maps : List ClassMap) :
    ClassMap → List String → Nat → Except MappingError (List String) → Prop where
  | root {c : ClassMap} {lineage : List String} (hbase : c.base = none) :
      Climbs maps c lineage 0 (.ok lineage)
  | cycle {c : ClassMap} {lineage : List String} {base : String} (hbase : c.base = some base)
      (hmet : base ∈ lineage) : Climbs maps c lineage 0 (.error (.inheritanceCycle base))
  | missing {c : ClassMap} {lineage : List String} {base : String} (hbase : c.base = some base)
      (hnew : base ∉ lineage) (hfound : findClass? maps base = none) :
      Climbs maps c lineage 0 (.error (.classNotFound base))
  | up {c b : ClassMap} {lineage : List String} {base : String} {count : Nat}
      {outcome : Except MappingError (List String)} (hbase : c.base = some base)
      (hnew : base ∉ lineage) (hfound : findClass? maps base = some b)
      (habove : Climbs maps b (base :: lineage) count outcome) :
      Climbs maps c lineage (count + 1) outcome

variable {maps : List ClassMap}

/-- A bound that lets the walk come to its end does not change it. -/
theorem Climbs.ancestryWithin_eq {c : ClassMap} {lineage : List String} {count steps : Nat}
    {outcome : Except MappingError (List String)} (h : Climbs maps c lineage count outcome)
    (hsteps : count < steps) : ancestryWithin maps steps c lineage = outcome := by
  rcases Nat.exists_eq_add_of_lt hsteps with ⟨more, rfl⟩
  clear hsteps
  induction h with
  | root hbase => rw [ancestryWithin, hbase]
  | cycle hbase hmet =>
      rw [ancestryWithin, hbase]
      exact if_pos hmet
  | missing hbase hnew hfound =>
      rw [ancestryWithin, hbase]
      dsimp only
      rw [if_neg hnew, hfound]
  | up hbase hnew hfound _ ih =>
      rw [ancestryWithin, hbase]
      dsimp only
      rw [if_neg hnew, hfound, Nat.add_right_comm]
      exact ih

/-- There is one outcome. -/
theorem Climbs.outcome_eq {c : ClassMap} {lineage : List String} {count count' : Nat}
    {outcome outcome' : Except MappingError (List String)} (h : Climbs maps c lineage count outcome)
    (h' : Climbs maps c lineage count' outcome') : outcome = outcome' := by
  have hsteps : count < max count count' + 1 := by omega
  have hsteps' : count' < max count count' + 1 := by omega
  rw [← h.ancestryWithin_eq hsteps, ← h'.ancestryWithin_eq hsteps']

/-- A bounded walk that ends well has not met its bound. -/
theorem climbs_of_eq_ok {result : List String} (steps : Nat) :
    ∀ {c : ClassMap} {lineage : List String}, ancestryWithin maps steps c lineage = .ok result →
      ∃ count, count < steps ∧ Climbs maps c lineage count (.ok result) := by
  induction steps with
  | zero => exact nofun
  | succ steps ih =>
      intro c lineage h
      rw [ancestryWithin] at h
      cases hbase : c.base with
      | none =>
          rw [hbase] at h
          rw [← Except.ok.inj h]
          exact ⟨0, Nat.succ_pos steps, .root hbase⟩
      | some base =>
          rw [hbase] at h
          dsimp only at h
          by_cases hmet : base ∈ lineage
          · rw [if_pos hmet] at h
            cases h
          · rw [if_neg hmet] at h
            cases hfound : findClass? maps base with
            | none =>
                rw [hfound] at h
                cases h
            | some b =>
                rw [hfound] at h
                rcases ih h with ⟨count, hcount, habove⟩
                exact ⟨count + 1, Nat.succ_lt_succ hcount, .up hbase hmet hfound habove⟩

/-! ### What a walk puts before its lineage -/

/-- Every base that the walk goes to adds one name. -/
theorem Climbs.length_eq {c : ClassMap} {lineage result : List String} {count : Nat}
    {outcome : Except MappingError (List String)} (h : Climbs maps c lineage count outcome)
    (hresult : outcome = .ok result) : result.length = lineage.length + count := by
  induction h with
  | root _ => rw [Except.ok.inj hresult, Nat.add_zero]
  | cycle _ _ => cases hresult
  | missing _ _ _ => cases hresult
  | up _ _ _ _ ih => rw [ih hresult, List.length_cons, Nat.add_assoc, Nat.add_comm 1]

/-- What a lineage was begun with stays at its end, and it may be begun with less. -/
theorem Climbs.append {c : ClassMap} {lineage back result : List String} {count : Nat}
    {outcome : Except MappingError (List String)} (h : Climbs maps c lineage count outcome)
    (hresult : outcome = .ok result) : ∀ {front : List String}, lineage = front ++ back →
      ∃ upper, result = upper ++ back ∧ Climbs maps c front count (.ok upper) := by
  induction h with
  | root hbase =>
      rintro front rfl
      exact ⟨front, (Except.ok.inj hresult).symm, .root hbase⟩
  | cycle _ _ => cases hresult
  | missing _ _ _ => cases hresult
  | @up c b lineage base count outcome hbase hnew hfound _ ih =>
      rintro front rfl
      rcases ih hresult (List.cons_append).symm with ⟨upper, hupper, habove⟩
      -- The names at the back are known not to be met, so the walk does without them.
      have hnew' : base ∉ front := fun hmet => hnew (List.mem_append_left back hmet)
      exact ⟨upper, hupper, .up hbase hnew' hfound habove⟩

/-- A lineage ends with its class. -/
theorem ancestry_eq_append {c : ClassMap} {lineage : List String}
    (h : ancestry maps c = .ok lineage) : ∃ upper, lineage = upper ++ [c.name] := by
  rcases climbs_of_eq_ok _ h with ⟨_, _, hclimbs⟩
  rcases hclimbs.append rfl (List.nil_append [c.name]).symm with ⟨upper, hupper, _⟩
  exact ⟨upper, hupper⟩

theorem ancestry_of_root {c : ClassMap} {lineage : List String}
    (h : ancestry maps c = .ok lineage) (hbase : c.base = none) : lineage = [c.name] := by
  rcases climbs_of_eq_ok _ h with ⟨_, _, hclimbs⟩
  exact Except.ok.inj (hclimbs.outcome_eq (.root hbase))

/-- The lineage of a class is that of its base with the class at the end. -/
theorem ancestry_of_base {c : ClassMap} {lineage : List String}
    (h : ancestry maps c = .ok lineage) {base : String} (hbase : c.base = some base) :
    ∃ b upper, findClass? maps base = some b ∧ ancestry maps b = .ok upper ∧
      lineage = upper ++ [c.name] := by
  rcases climbs_of_eq_ok _ h with ⟨_, hcount, hclimbs⟩
  cases hclimbs with
  | root hroot =>
      rw [hbase] at hroot
      cases hroot
  | @up _ b _ _ count _ hbase' _ hfound habove =>
      rw [hbase] at hbase'
      rcases Option.some.inj hbase' with rfl
      -- The walk from the base met the same classes, only with the class itself at the back.
      rcases habove.append rfl (List.singleton_append).symm with ⟨upper, hupper, hclimbs⟩
      rcases mem_of_findClass? hfound with ⟨_, rfl⟩
      have hancestry : ancestry maps b = .ok upper := hclimbs.ancestryWithin_eq (by omega)
      exact ⟨b, upper, hfound, hancestry, hupper⟩

/-- The bound of the walk is one of the lineage as well. -/
theorem length_le_of_ancestry {c : ClassMap} {lineage : List String}
    (h : ancestry maps c = .ok lineage) : lineage.length ≤ maps.length + 1 := by
  rcases climbs_of_eq_ok _ h with ⟨count, hcount, hclimbs⟩
  rw [hclimbs.length_eq rfl, List.length_singleton]
  omega

/-! ### The walk ends -/

/-- Names that are all different and all in the list are not more than its classes. -/
theorem length_le_of_names {lineage : List String} (hnodup : lineage.Nodup)
    (hnames : lineage ⊆ maps.map ClassMap.name) : lineage.length ≤ maps.length := by
  have hlength := (List.subperm_of_subset hnodup hnames).length_le
  rwa [List.length_map] at hlength

/-- A walk is over, or goes on to a class of the list that it has not met. -/
theorem climbs_or_goes_up (c : ClassMap) (lineage : List String) :
    (∃ outcome, Climbs maps c lineage 0 outcome) ∨
      ∃ b ∈ maps, c.base = some b.name ∧ b.name ∉ lineage ∧ findClass? maps b.name = some b := by
  cases hbase : c.base with
  | none => exact .inl ⟨_, .root hbase⟩
  | some base =>
      by_cases hmet : base ∈ lineage
      · exact .inl ⟨_, .cycle hbase hmet⟩
      · cases hfound : findClass? maps base with
        | none => exact .inl ⟨_, .missing hbase hmet hfound⟩
        | some b =>
            rcases mem_of_findClass? hfound with ⟨hb, rfl⟩
            exact .inr ⟨b, hb, rfl, hmet, hfound⟩

/-- The walk ends: what it has met are different names of the list, and when all of them are
    met no base can be new. The induction is on the number of those not met. -/
theorem exists_climbs (room : Nat) :
    ∀ (c : ClassMap) (lineage : List String), lineage.Nodup →
      lineage ⊆ maps.map ClassMap.name → maps.length ≤ lineage.length + room →
      ∃ count outcome, count ≤ room ∧ Climbs maps c lineage count outcome := by
  induction room with
  | zero =>
      intro c lineage hnodup hnames hroom
      rcases climbs_or_goes_up c lineage with ⟨outcome, hover⟩ | ⟨b, hb, _, hnew, _⟩
      · exact ⟨0, outcome, Nat.le_refl 0, hover⟩
      · -- One more name would be more than there are.
        have hlength := length_le_of_names (List.nodup_cons.mpr ⟨hnew, hnodup⟩)
          (List.cons_subset.mpr ⟨List.mem_map_of_mem hb, hnames⟩)
        rw [List.length_cons] at hlength
        omega
  | succ room ih =>
      intro c lineage hnodup hnames hroom
      rcases climbs_or_goes_up c lineage with ⟨outcome, hover⟩ | ⟨b, hb, hbase, hnew, hfound⟩
      · exact ⟨0, outcome, Nat.zero_le _, hover⟩
      · have hroom' : maps.length ≤ (b.name :: lineage).length + room := by
          rw [List.length_cons]
          omega
        rcases ih b (b.name :: lineage) (List.nodup_cons.mpr ⟨hnew, hnodup⟩)
            (List.cons_subset.mpr ⟨List.mem_map_of_mem hb, hnames⟩) hroom' with
          ⟨count, outcome, hcount, habove⟩
        exact ⟨count + 1, outcome, Nat.succ_le_succ hcount, .up hbase hnew hfound habove⟩

/-- Every walk comes to an end and goes to fewer bases than there are classes. What it comes
    to is what the bounded walk does. -/
theorem climbs_ancestry {c : ClassMap} (hc : c ∈ maps) :
    ∃ count, count < maps.length ∧ Climbs maps c [c.name] count (ancestry maps c) := by
  have hpos : 0 < maps.length := List.length_pos_of_mem hc
  have hnames : [c.name] ⊆ maps.map ClassMap.name :=
    List.cons_subset.mpr ⟨List.mem_map_of_mem hc, List.nil_subset _⟩
  rcases exists_climbs (maps.length - 1) c [c.name] (List.nodup_singleton _) hnames
      (by rw [List.length_singleton]; omega) with
    ⟨count, outcome, hcount, hclimbs⟩
  have hancestry : ancestry maps c = outcome := hclimbs.ancestryWithin_eq (by omega)
  rw [hancestry]
  exact ⟨count, by omega, hclimbs⟩

end DocumentMapper
