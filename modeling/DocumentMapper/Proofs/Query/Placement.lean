import DocumentMapper.Proofs.Data.List
import DocumentMapper.Proofs.Query.Levels
import DocumentMapper.Proofs.Value.Document

/-!
# Placing an atom

A condition is placed under the name of its field, beneath as many `$not` as there are
negations around it, and there under the key of its relation. What stands under the
name of a field is therefore a stack: an operator document, beneath its `$not` another
one, and so on, with a bare value at the end if the last condition was an equality.
`Stacked` says so and gives the truth of every level. Placing an atom multiplies the
truth of the atom to that of its level and leaves the other levels alone
(`stacked_of_place`), also where the atom is there already, since then it is equal to
the one that is there.

## Main definitions

* `Document.operatorsTruth`: The truth of the operators of one level.
* `Stacked`: What stands under the name of a field, and the truth of its levels.
* `Spells`: The keys beneath the name of a field, and the level they lead to.
* `Document.Stacks`: A condition document and the levels of its fields.

## Theorems

* `Stacked.demand_eq`: A stack is true as its levels are.
* `stacked_of_place`: Placing an atom under a name.
* `Document.Stacks.truth_eq_true`: A condition document is true as its levels are.
* `Document.Stacks.addCondition`: Placing an atom in a condition document.
-/

namespace DocumentMapper

namespace Document

theorem get?_insert_self (d : Document) (key : String) (v : Value) :
    (d.insert key v).get? key = some v :=
  Fields.lookup_insert_self key v d.fields

theorem get?_insert_of_ne (d : Document) {key other : String} (h : other ≠ key) (v : Value) :
    (d.insert key v).get? other = d.get? other :=
  Fields.lookup_insert_of_ne h v d.fields

theorem insert_of_get? {d : Document} {key : String} {v : Value} (h : d.get? key = some v) :
    d.insert key v = d := by
  cases d
  exact congrArg mk (Fields.insert_of_lookup h)

theorem insert_insert (d : Document) (key : String) (first second : Value) :
    (d.insert key first).insert key second = d.insert key second := by
  cases d
  exact congrArg mk (Fields.insert_insert key first second _)

theorem nodup_insert {d : Document} (h : d.keys.Nodup) (key : String) (v : Value) :
    (d.insert key v).keys.Nodup := by
  unfold keys insert
  rw [Fields.map_fst_insert]
  by_cases hkey : key ∈ d.fields.map Prod.fst
  · rw [if_pos hkey]
    exact h
  · rw [if_neg hkey]
    refine List.nodup_append.mpr ⟨h, List.nodup_singleton key, ?_⟩
    intro a ha b hb
    rw [List.mem_singleton.mp hb]
    exact fun heq => hkey (heq ▸ ha)

/-- The truth of the operators of one level, without what is denied. -/
def operatorsTruth (t : Assignment) (field : String) (d : Document) : Bool :=
  d.fields.all fun entry => entry.1 = "$not" ||
    (Relation.ofKey? entry.1).any fun r => t.holds ⟨field, r, entry.2⟩

end Document

/-- What stands under the name of a field, with the truth of its levels. -/
inductive Stacked (t : Assignment) (field : String) : Value → List Bool → Prop
  | value (v : Value) (h : v.asDocument? = none) : Stacked t field v [t.holds ⟨field, .equal, v⟩]
  | last (d : Document) (hkeys : d.keys.Nodup) (h : d.get? "$not" = none) :
      Stacked t field (.document d) [d.operatorsTruth t field]
  | deny (d : Document) (v : Value) (levels : List Bool) (hkeys : d.keys.Nodup)
      (h : d.get? "$not" = some v) (hv : Stacked t field v levels) :
      Stacked t field (.document d) (d.operatorsTruth t field :: levels)

section Stacked

variable {t : Assignment} {field : String}

theorem Stacked.ne_nil {v : Value} {levels : List Bool} (h : Stacked t field v levels) :
    levels ≠ [] := by
  cases h <;> exact List.cons_ne_nil _ _

/-- Operators are true together with what is denied beneath them. -/
theorem operatorsDemand_eq (fields : List (String × Value)) (h : (fields.map Prod.fst).Nodup) :
    operatorsDemand t field fields = (Document.operatorsTruth t field ⟨fields⟩ &&
      (fields.lookup "$not").all fun v => !v.demand t field) := by
  induction fields with
  | nil => rfl
  | cons entry rest ih =>
      rcases entry with ⟨key, v⟩
      rw [List.map_cons, List.nodup_cons] at h
      rw [operatorsDemand, ih h.2]
      unfold Document.operatorsTruth
      rw [List.all_cons, List.lookup_cons]
      by_cases hkey : key = "$not"
      · subst hkey
        rw [Fields.lookup_eq_none h.1]
        simp [Bool.and_comm]
      · have hne : ("$not" == key) = false := beq_eq_false_iff_ne.mpr (Ne.symm hkey)
        simp [hkey, hne, Bool.and_assoc]

theorem Stacked.demand_eq {v : Value} {levels : List Bool} (h : Stacked t field v levels) :
    v.demand t field = alternation levels := by
  induction h with
  | value v h =>
      cases v with
      | document d => cases h
      | _ => rfl
  | last d hkeys h =>
      rcases d with ⟨fields⟩
      rw [Value.demand, Document.demand, operatorsDemand_eq fields hkeys]
      have hnone : fields.lookup "$not" = none := h
      rw [hnone, Option.all_none, Bool.and_true, alternation]
  | deny d v levels hkeys h hv ih =>
      rcases d with ⟨fields⟩
      rw [Value.demand, Document.demand, operatorsDemand_eq fields hkeys]
      -- One negation more, and the demands beneath it count the other way round.
      have hsome : fields.lookup "$not" = some v := h
      rw [hsome, Option.all_some, ih]
      cases levels with
      | nil => exact absurd rfl hv.ne_nil
      | cons x xs => rfl

end Stacked

/-- The keys beneath the name of a field, with the number of negations they lead
    through and the relation at their end. -/
inductive Spells : List String → Nat → Relation → Prop
  | equal : Spells [] 0 .equal
  | key (k : String) (r : Relation) (h : r.key? = some k) : Spells [k] 0 r
  | deny (keys : List String) (depth : Nat) (r : Relation) (h : Spells keys depth r) :
      Spells ("$not" :: keys) (depth + 1) r

/-- The levels of what stands under a name, if anything does. -/
def Slot (t : Assignment) (field : String) (d : Document) (key : String) (levels : List Bool) :
    Prop :=
  (d.get? key = none ∧ levels = []) ∨ ∃ v, d.get? key = some v ∧ Stacked t field v levels

/-- A document with a value under a name that may have been there before. -/
def Document.Sets (d : Document) (key : String) (v : Value) (d' : Document) : Prop :=
  d' = d.insert key v ∨ (d' = d ∧ d.get? key = some v)

namespace Document

variable {d d' : Document} {key : String} {v : Value}

theorem Sets.get?_self (h : d.Sets key v d') : d'.get? key = some v := by
  rcases h with rfl | ⟨rfl, h⟩
  · exact get?_insert_self d key v
  · exact h

theorem Sets.get?_of_ne (h : d.Sets key v d') {other : String} (hne : other ≠ key) :
    d'.get? other = d.get? other := by
  rcases h with rfl | ⟨rfl, _⟩
  · exact get?_insert_of_ne d hne v
  · rfl

theorem Sets.nodup (h : d.Sets key v d') (hd : d.keys.Nodup) : d'.keys.Nodup := by
  rcases h with rfl | ⟨rfl, _⟩
  · exact nodup_insert hd key v
  · exact hd

theorem operatorsTruth_insert_not (t : Assignment) (field : String) (d : Document) (v : Value) :
    (d.insert "$not" v).operatorsTruth t field = d.operatorsTruth t field := by
  rcases d with ⟨fields⟩
  unfold operatorsTruth insert
  induction fields with
  | nil => rfl
  | cons entry rest ih =>
      rcases entry with ⟨key, w⟩
      rw [Fields.insert]
      by_cases hkey : key = "$not"
      · rw [if_pos hkey, List.all_cons, List.all_cons]
        simp [hkey]
      · rw [if_neg hkey, List.all_cons, List.all_cons, ih]

theorem Sets.operatorsTruth (h : d.Sets "$not" v d') (t : Assignment) (field : String) :
    d'.operatorsTruth t field = d.operatorsTruth t field := by
  rcases h with rfl | ⟨rfl, _⟩
  · exact operatorsTruth_insert_not t field d v
  · rfl

/-- A value is placed under a name unless a different one is there. -/
theorem place?_key (h : d.place? v [key] = some d') :
    (d.get? key = none ∧ d' = d.insert key v) ∨
      ∃ w, d.get? key = some w ∧ (w == v) = true ∧ d' = d := by
  rw [place?] at h
  cases hget : d.get? key with
  | none =>
      rw [hget] at h
      exact .inl ⟨rfl, (Option.some.inj h).symm⟩
  | some w =>
      simp only [hget] at h
      by_cases hequal : (w == v) = true
      · rw [if_pos hequal] at h
        exact .inr ⟨w, rfl, hequal, (Option.some.inj h).symm⟩
      · rw [if_neg hequal] at h
        cases h

/-- Beneath a name, a value is placed in the document that is there, or in a new one. -/
theorem place?_cons {next : String} {rest : List String}
    (h : d.place? v (key :: next :: rest) = some d') :
    ∃ inner inner', inner.place? v (next :: rest) = some inner' ∧
      d' = d.insert key (.document inner') ∧
      ((d.get? key = none ∧ inner = .empty) ∨ d.get? key = some (.document inner)) := by
  rw [place?] at h
  split at h
  · rename_i hget
    rcases Option.bind_eq_some_iff.mp h with ⟨inner', hplace, hd'⟩
    exact ⟨.empty, inner', hplace, (Option.some.inj hd').symm, .inl ⟨hget, rfl⟩⟩
  · rename_i inner hget
    rcases Option.bind_eq_some_iff.mp h with ⟨inner', hplace, hd'⟩
    exact ⟨inner, inner', hplace, (Option.some.inj hd').symm, .inr hget⟩
  · cases h

end Document

section Placing

variable {t : Assignment} {field : String} {v : Value}

theorem stacked_document_iff {d : Document} {levels : List Bool} :
    Stacked t field (.document d) levels ↔ d.keys.Nodup ∧
      ∃ lower, levels = d.operatorsTruth t field :: lower ∧ Slot t field d "$not" lower := by
  constructor
  · intro h
    cases h with
    | value _ h => cases h
    | last _ hkeys h => exact ⟨hkeys, [], rfl, .inl ⟨h, rfl⟩⟩
    | deny _ w lower hkeys h hw => exact ⟨hkeys, lower, rfl, .inr ⟨w, h, hw⟩⟩
  · rintro ⟨hkeys, lower, rfl, ⟨h, rfl⟩ | ⟨w, h, hw⟩⟩
    · exact .last d hkeys h
    · exact .deny d w lower hkeys h hw

theorem stacked_empty : Stacked t field (.document .empty) [true] :=
  .last .empty List.nodup_nil rfl

/-- What is equal to a value that is no document is none either. -/
theorem asDocument?_of_equals {w : Value} (hv : v.asDocument? = none) (h : (w == v) = true) :
    w.asDocument? = none := by
  cases w with
  | document d =>
      cases v with
      | document d' => cases hv
      | _ => simp only [BEq.beq, Value.equals, Bool.false_eq_true] at h
  | _ => rfl

theorem stacked_value {levels : List Bool} (hv : v.asDocument? = none)
    (h : Stacked t field v levels) : levels = [t.holds ⟨field, .equal, v⟩] := by
  cases h with
  | value _ _ => rfl
  | last | deny => cases hv

/-- An operator that is there is implied by all of them. -/
theorem holds_of_operatorsTruth {d : Document} {key : String} {r : Relation} {w : Value}
    (hkey : r.key? = some key) (hget : d.get? key = some w)
    (h : d.operatorsTruth t field = true) : t.holds ⟨field, r, w⟩ = true := by
  have hentry := List.all_eq_true.mp h _ (mem_of_lookup hget)
  rw [decide_eq_false (Relation.ne_not_of_key? hkey), Bool.false_or,
    Relation.ofKey?_of_key? hkey] at hentry
  exact hentry

/-- The operators of a level after a new one was placed. -/
theorem operatorsTruth_insert {d : Document} {key : String} {r : Relation}
    (hkey : r.key? = some key) (hget : d.get? key = none) (w : Value) :
    (d.insert key w).operatorsTruth t field =
      (d.operatorsTruth t field && t.holds ⟨field, r, w⟩) := by
  have hnew : key ∉ d.fields.map Prod.fst := by
    intro hmem
    rcases List.mem_map.mp hmem with ⟨entry, hentry, rfl⟩
    have hne := List.lookup_eq_none_iff.mp hget entry hentry
    rw [bne_self_eq_false] at hne
    exact Bool.false_ne_true hne
  unfold Document.operatorsTruth Document.insert
  rw [Fields.insert_of_notMem hnew, List.all_append, List.all_cons, List.all_nil, Bool.and_true,
    decide_eq_false (Relation.ne_not_of_key? hkey), Bool.false_or, Relation.ofKey?_of_key? hkey]
  rfl

/-- The operators of a level after a further one was placed. -/
theorem stacked_of_key {d d' : Document} {levels : List Bool} {key : String} {r : Relation}
    (hkey : r.key? = some key) (hd : Stacked t field (.document d) levels)
    (h : d.place? v [key] = some d') :
    Stacked t field (.document d') (joinLevels Bool.and levels [t.holds ⟨field, r, v⟩]) := by
  rcases stacked_document_iff.mp hd with ⟨hkeys, lower, rfl, hslot⟩
  rw [joinLevels, joinLevels_nil]
  rcases Document.place?_key h with ⟨hnone, rfl⟩ | ⟨w, hsome, hequal, rfl⟩
  · have hne : "$not" ≠ key := (Relation.ne_not_of_key? hkey).symm
    rw [← operatorsTruth_insert hkey hnone]
    refine stacked_document_iff.mpr ⟨Document.nodup_insert hkeys key v, lower, rfl, ?_⟩
    unfold Slot
    rw [Document.get?_insert_of_ne d hne]
    exact hslot
  · -- The operator is there with an equal constant, and so the level is as it was.
    have hsame : (d'.operatorsTruth t field && t.holds ⟨field, r, v⟩) =
        d'.operatorsTruth t field := by
      cases htruth : d'.operatorsTruth t field with
      | false => rfl
      | true =>
          rw [← t.congr field r w v hequal, holds_of_operatorsTruth hkey hsome htruth]
          rfl
    rw [hsame]
    exact hd

/-- What is placed beneath a name is placed in a stack, which may be a new one. -/
theorem exists_inner_of_place {d d' : Document} {key next : String} {rest : List String}
    {levels : List Bool} (hslot : Slot t field d key levels)
    (h : d.place? v (key :: next :: rest) = some d') :
    ∃ inner inner' upper, inner.place? v (next :: rest) = some inner' ∧
      d.Sets key (.document inner') d' ∧ Stacked t field (.document inner) upper ∧
      ∀ y ys, joinLevels Bool.and upper (y :: ys) = joinLevels Bool.and levels (y :: ys) := by
  rcases Document.place?_cons h with ⟨inner, inner', hplace, hd', ⟨hnone, rfl⟩ | hsome⟩
  · rcases hslot with ⟨_, rfl⟩ | ⟨w, hw, _⟩
    · exact ⟨.empty, inner', [true], hplace, .inl hd', stacked_empty, fun _ _ => rfl⟩
    · rw [hnone] at hw
      cases hw
  · rcases hslot with ⟨hnone, _⟩ | ⟨w, hw, hstacked⟩
    · rw [hsome] at hnone
      cases hnone
    · rw [hsome] at hw
      rw [← Option.some.inj hw] at hstacked
      exact ⟨inner, inner', levels, hplace, .inl hd', hstacked, fun _ _ => rfl⟩

/-- A value that is placed directly under a name is new there or was there before. -/
theorem stacked_of_place_key (hv : v.asDocument? = none) {d d' : Document} {key : String}
    {levels : List Bool} (hslot : Slot t field d key levels) (h : d.place? v [key] = some d') :
    ∃ w, d.Sets key w d' ∧
      Stacked t field w (joinLevels Bool.and levels [t.holds ⟨field, .equal, v⟩]) := by
  rcases Document.place?_key h with ⟨hnone, hd'⟩ | ⟨w, hsome, hequal, rfl⟩
  · rcases hslot with ⟨_, rfl⟩ | ⟨w, hw, _⟩
    · exact ⟨v, .inl hd', .value v hv⟩
    · rw [hnone] at hw
      cases hw
  · rcases hslot with ⟨hnone, _⟩ | ⟨w', hw', hstacked⟩
    · rw [hsome] at hnone
      cases hnone
    · rw [hsome] at hw'
      rw [← Option.some.inj hw'] at hstacked
      have hw := asDocument?_of_equals hv hequal
      -- The value stays as it is, and equal values are the same condition.
      refine ⟨w, .inr ⟨rfl, hsome⟩, ?_⟩
      rw [stacked_value hw hstacked, ← t.congr field .equal w v hequal, joinLevels,
        joinLevels_nil, Bool.and_self]
      exact .value w hw

/-- Placing an atom under a name multiplies its truth to that of its level. -/
theorem stacked_of_place {keys : List String} {depth : Nat} {r : Relation}
    (hspell : Spells keys depth r) (hv : v.asDocument? = none) :
    ∀ {d d' : Document} {key : String} {levels : List Bool}, Slot t field d key levels →
      d.place? v (key :: keys) = some d' →
      ∃ w, d.Sets key w d' ∧
        Stacked t field w
          (joinLevels Bool.and levels (sink true depth [t.holds ⟨field, r, v⟩])) := by
  induction hspell with
  | equal =>
      intro d d' key levels hslot h
      exact stacked_of_place_key hv hslot h
  | key k r hkey =>
      intro d d' key levels hslot h
      rcases exists_inner_of_place hslot h with
        ⟨inner, inner', upper, hplace, hsets, hstacked, hjoin⟩
      refine ⟨.document inner', hsets, ?_⟩
      rw [sink, ← hjoin]
      exact stacked_of_key hkey hstacked hplace
  | deny keys depth r hspell ih =>
      intro d d' key levels hslot h
      rcases exists_inner_of_place hslot h with
        ⟨inner, inner', upper, hplace, hsets, hstacked, hjoin⟩
      rcases stacked_document_iff.mp hstacked with ⟨hkeys, lower, rfl, hlower⟩
      rcases ih hlower hplace with ⟨w, hw, hstacked'⟩
      refine ⟨.document inner', hsets, ?_⟩
      -- The levels beneath are not empty, so the conjunction reaches below the first one.
      have hne := sink_ne_nil true depth (List.cons_ne_nil (t.holds ⟨field, r, v⟩) [])
      rw [sink]
      cases hsink : sink true depth [t.holds ⟨field, r, v⟩] with
      | nil => exact absurd hsink hne
      | cons y ys =>
          rw [hsink] at hstacked'
          rw [deepen, ← hjoin, joinLevels, Bool.and_true, ← hw.operatorsTruth]
          exact stacked_document_iff.mpr
            ⟨hw.nodup hkeys, _, rfl, .inr ⟨w, hw.get?_self, hstacked'⟩⟩

end Placing

/-! ### Condition documents -/

/-- A condition document with the truth of the levels of every field. -/
structure Document.Stacks (t : Assignment) (d : Document) (levels : String → List Bool) :
    Prop where
  keys : d.keys.Nodup
  slots : ∀ field, Slot t field d field (levels field)

namespace Document.Stacks

variable {t : Assignment} {d d' : Document} {levels : String → List Bool}

theorem empty (t : Assignment) : Document.empty.Stacks t fun _ => [] where
  keys := List.nodup_nil
  slots _ := .inl ⟨rfl, rfl⟩

/-- A condition document is true as the levels of its fields are. -/
theorem truth_eq_true (h : d.Stacks t levels) :
    d.truth t = true ↔ ∀ field, alternation (levels field) = true := by
  unfold truth
  rw [List.all_eq_true]
  constructor
  · intro hall field
    rcases h.slots field with ⟨_, hnil⟩ | ⟨v, hget, hstacked⟩
    · rw [hnil]
      rfl
    · rw [← hstacked.demand_eq]
      exact hall _ (mem_of_lookup hget)
  · rintro hall ⟨field, v⟩ hmem
    have hget : d.get? field = some v := Fields.lookup_of_mem h.keys hmem
    rcases h.slots field with ⟨hnone, _⟩ | ⟨w, hw, hstacked⟩
    · rw [hget] at hnone
      cases hnone
    · rw [hget] at hw
      rw [← Option.some.inj hw] at hstacked
      rw [hstacked.demand_eq]
      exact hall field

/-- An accepted atom multiplies its truth to that of its level. -/
theorem addCondition (h : d.Stacks t levels) {scopes : List Scope} {keys : List String}
    {depth : Nat} {a : Atom} (hpath : conditionPath scopes = a.field :: keys)
    (hspell : Spells keys depth a.relation) (ha : a.constant.asDocument? = none)
    (hadd : d.addCondition scopes a.constant = .ok d') :
    d'.Stacks t fun field =>
      joinLevels Bool.and (levels field)
        (sink true depth ((Predicate.atom a).levelTruths t field)) := by
  unfold Document.addCondition at hadd
  rw [hpath] at hadd
  cases hplace : d.place? a.constant (a.field :: keys) with
  | none =>
      simp only [hplace] at hadd
      cases hadd
  | some placed =>
      simp only [hplace] at hadd
      rw [← Except.ok.inj hadd]
      rcases stacked_of_place hspell ha (h.slots a.field) hplace with ⟨w, hsets, hstacked⟩
      refine ⟨hsets.nodup h.keys, ?_⟩
      intro field
      rw [Predicate.levelTruths_atom]
      -- Only the field of the atom changes.
      by_cases hfield : a.field = field
      · subst hfield
        rw [if_pos rfl]
        exact .inr ⟨w, hsets.get?_self, hstacked⟩
      · rw [if_neg hfield, sink_nil, joinLevels_nil]
        unfold Slot
        rw [hsets.get?_of_ne (Ne.symm hfield)]
        exact h.slots field

end Document.Stacks

end DocumentMapper
