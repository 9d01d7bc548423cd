import DocumentMapper.Proofs.Data.Occurrence
import DocumentMapper.Proofs.Query.Filter
import DocumentMapper.Proofs.Value.Document
import DocumentMapper.Proofs.Value.Equality

/-!
# Atoms that are merged

Atoms without negations are placed one after another, and those of one field come
together: a field that is to be equal to a constant has the constant under its name, any
other one a document of its operators. This can be said without placing anything. The
atoms are grouped by their fields, in the order in which the fields first occur, and those
of a field in the same way by their operators (`conditionsOf`).

Atoms are in each other's way if they are about one field and one of them is an equality
and the other is not, or if they have one operator and different constants. This is a
matter of two atoms at a time. But a placement compares with the first atom only that has
the operator, and it looks at one entry of the field. That this is enough needs that the
atoms before are not in each other's way, and that equality of values is transitive. So the
document and the condition on it are carried through the placements together
(`addCondition_conditionsOf`).

## Main definitions

* `grouped`: Items grouped by names, in the order of first occurrence.
* `Atom.Compatible`: Atoms that are not in each other's way.
* `placeAll`: Atoms placed one after another.
* `conditionsOf`: The condition document of some atoms.

## Theorems

* `grouped_concat`: A further item among groups.
* `addCondition_conditionsOf`: A further atom is placed exactly if it is compatible.
* `placeAll_eq_ok`: Atoms are placed exactly if they are compatible.
-/

namespace DocumentMapper

/-! ### Groups -/

section Groups

variable {α β : Type}

/-- What is made of the items of each name. The names are in the order in which they first
    occur. -/
def grouped (name : α → String) (content : List α → β) (items : List α) : List (String × β) :=
  (keepFirst id (items.map name)).map fun n => (n, content (items.filter fun x => name x = n))

variable {name : α → String} {content : List α → β}

theorem names_grouped (content : List α → β) (items : List α) :
    (grouped name content items).map Prod.fst = keepFirst id (items.map name) := by
  rw [grouped, List.map_map]
  exact List.map_id _

theorem nodup_grouped (items : List α) : ((grouped name content items).map Prod.fst).Nodup := by
  rw [names_grouped, ← List.map_id (keepFirst id (items.map name))]
  exact nodup_keepFirst _

theorem mem_names_grouped {items : List α} {n : String} :
    n ∈ (grouped name content items).map Prod.fst ↔ n ∈ items.map name := by
  rw [names_grouped]
  have h : n ∈ (keepFirst id (items.map name)).map id ↔ n ∈ (items.map name).map id :=
    mem_map_keepFirst
  rw [List.map_id, List.map_id] at h
  exact h

/-- What is made of items, if there are any. -/
def madeOf? (content : List α → β) : List α → Option β
  | [] => none
  | x :: rest => some (content (x :: rest))

/-- What is found under a name is made of its items. -/
theorem lookup_grouped (items : List α) (n : String) :
    (grouped name content items).lookup n =
      madeOf? content (items.filter fun x => name x = n) := by
  cases hown : items.filter fun x => name x = n with
  | nil =>
      have hnone : n ∉ items.map name := by
        intro hmem
        rcases List.mem_map.mp hmem with ⟨x, hx, rfl⟩
        have hfound : x ∈ items.filter fun y => name y = name x :=
          List.mem_filter.mpr ⟨hx, decide_eq_true rfl⟩
        rw [hown] at hfound
        cases hfound
      exact Fields.lookup_eq_none fun hmem => hnone (mem_names_grouped.mp hmem)
  | cons x own =>
      have hx : x ∈ items.filter fun y => name y = n := by
        rw [hown]
        exact List.mem_cons_self
      have hname := of_decide_eq_true (List.mem_filter.mp hx).2
      have hmem : n ∈ keepFirst id (items.map name) := by
        rw [← names_grouped content, mem_names_grouped]
        exact List.mem_map.mpr ⟨x, (List.mem_filter.mp hx).1, hname⟩
      refine Fields.lookup_of_mem (nodup_grouped items) (List.mem_map.mpr ⟨n, hmem, ?_⟩)
      rw [hown]

/-- A further item changes what is made of the items of its name. -/
theorem grouped_concat (items : List α) (x : α) :
    grouped name content (items ++ [x]) =
      Fields.insert (name x) (content (items.filter (fun y => name y = name x) ++ [x]))
        (grouped name content items) := by
  -- Both have the names in the same order, and the same under each of them.
  refine Fields.ext_of_lookup ?_ (nodup_grouped _) ?_
  · have hmem : name x ∈ keepFirst id (items.map name) ↔ name x ∈ items.map name := by
      rw [← names_grouped content, mem_names_grouped]
    rw [Fields.map_fst_insert, names_grouped, names_grouped, List.map_append, List.map_singleton,
      keepFirst_concat, List.map_id]
    simp only [hmem, id]
  · intro n
    by_cases hn : n = name x
    · subst hn
      rw [Fields.lookup_insert_self, lookup_grouped, List.filter_append, List.filter_singleton,
        decide_eq_true rfl]
      cases items.filter fun y => name y = name x <;> rfl
    · rw [Fields.lookup_insert_of_ne hn, lookup_grouped, lookup_grouped, List.filter_append,
        List.filter_singleton, decide_eq_false (Ne.symm hn)]
      rw [show (bif false then [x] else []) = [] from rfl, List.append_nil]

end Groups

/-! ### The condition document of atoms -/

/-- The key of an operator. Equality has none. -/
def Atom.operator (a : Atom) : String :=
  a.relation.key?.getD ""

/-- The constant that came first. -/
def firstConstant : List Atom → Value
  | [] => .null
  | a :: _ => a.constant

/-- What atoms about one field put under its name: the constant it is to be equal to, or the
    constants of its operators. -/
def fieldCondition : List Atom → Value
  | [] => .null
  | a :: rest =>
    if a.relation = .equal then a.constant
    else .document ⟨grouped Atom.operator firstConstant (a :: rest)⟩

/-- The condition document of atoms. -/
def conditionsOf (atoms : List Atom) : Document :=
  ⟨grouped Atom.field fieldCondition atoms⟩

/-- Places atoms into a condition document, one after another. -/
def placeAll (atoms : List Atom) (d : Document) : Except QueryError Document :=
  atoms.foldlM (fun d a => d.addCondition a.scopes a.constant) d

theorem placeAll_singleton (a : Atom) (d : Document) :
    placeAll [a] d = d.addCondition a.scopes a.constant := by
  rw [placeAll, List.foldlM_cons]
  exact bind_pure _

theorem placeAll_append (atoms more : List Atom) (d : Document) :
    placeAll (atoms ++ more) d = placeAll atoms d >>= placeAll more :=
  List.foldlM_append

/-- Two atoms that are not in each other's way. About one field they are both equalities or
    both none, and for one relation they have equal constants. -/
def Atom.Compatible (a b : Atom) : Prop :=
  a.field = b.field →
    (a.relation = .equal ↔ b.relation = .equal) ∧
      (a.relation = b.relation → (a.constant == b.constant) = true)

instance (a b : Atom) : Decidable (a.Compatible b) :=
  inferInstanceAs (Decidable (_ → _))

theorem Atom.operator_eq_iff {a b : Atom} : a.operator = b.operator ↔ a.relation = b.relation := by
  unfold operator
  cases a.relation <;> cases b.relation <;> decide

theorem exists_key?_of_ne {r : Relation} (h : r ≠ .equal) : ∃ key, r.key? = some key := by
  cases r with
  | equal => exact absurd rfl h
  | _ => exact ⟨_, rfl⟩

theorem conditionPath_atom (a : Atom) :
    conditionPath a.scopes = a.field :: a.relation.key?.toList := by
  unfold Atom.scopes
  cases a.relation.key? <;> rfl

/-! ### Placing under a name -/

namespace Document

/-- What is under a name after a value was placed there beneath some keys. -/
def placeUnder (v : Value) : List String → Option Value → Option Value
  | [], none => some v
  | [], some w => if w == v then some w else none
  | key :: keys, none => .document <$> empty.place? v (key :: keys)
  | key :: keys, some (.document inner) => .document <$> inner.place? v (key :: keys)
  | _, some _ => none

/-- A placement changes what is under the first name of its path. -/
theorem place?_eq_placeUnder (v : Value) (key : String) (keys : List String) (d : Document) :
    d.place? v (key :: keys) = (placeUnder v keys (d.get? key)).map (d.insert key) := by
  cases keys with
  | nil =>
      rw [place?]
      cases hget : d.get? key with
      | none => rfl
      | some w =>
          simp only [placeUnder]
          split
          · rw [Option.map_some, insert_of_get? hget]
          · rfl
  | cons next rest =>
      rw [place?]
      cases d.get? key with
      | none =>
          rw [placeUnder]
          cases empty.place? v (next :: rest) <;> rfl
      | some w =>
          cases w with
          | document inner =>
              rw [placeUnder]
              dsimp only
              cases inner.place? v (next :: rest) <;> rfl
          | _ => rfl

end Document

section

variable {own : List Atom} {a : Atom} {w : Value}

/-- Of constants that are equal to each other only the first one has to be looked at. -/
theorem placeUnder_constant (h : own.Pairwise fun b c => (b.constant == c.constant) = true) :
    Document.placeUnder a.constant [] (madeOf? firstConstant own) = some w ↔
      (∀ b ∈ own, (b.constant == a.constant) = true) ∧ w = firstConstant (own ++ [a]) := by
  cases own with
  | nil =>
      constructor
      · intro hw
        exact ⟨List.forall_mem_nil _, (Option.some.inj hw).symm⟩
      · rintro ⟨_, rfl⟩
        rfl
  | cons first rest =>
      rw [List.pairwise_cons] at h
      simp only [madeOf?, Document.placeUnder, firstConstant, List.cons_append]
      constructor
      · intro hw
        split at hw
        next hequal =>
          refine ⟨?_, (Option.some.inj hw).symm⟩
          intro b hb
          rcases List.mem_cons.mp hb with rfl | hb
          · exact hequal
          · -- The placement has compared with the first constant only; transitivity does the rest.
            have hback : (b.constant == first.constant) = true := by
              rw [Value.beq_comm]
              exact h.1 b hb
            exact Value.beq_trans hback hequal
        next => cases hw
      · rintro ⟨hall, rfl⟩
        rw [if_pos (hall first List.mem_cons_self)]

/-- An operator is placed among those of its field exactly if the constants it was placed
    with before are equal to the one it is placed with now. -/
theorem place?_operators {key : String} (hkey : a.operator = key)
    (h : own.Pairwise fun b c => b.relation = c.relation → (b.constant == c.constant) = true)
    {d : Document} :
    Document.place? a.constant [key] ⟨grouped Atom.operator firstConstant own⟩ = some d ↔
      (∀ b ∈ own, b.relation = a.relation → (b.constant == a.constant) = true) ∧
        d = ⟨grouped Atom.operator firstConstant (own ++ [a])⟩ := by
  subst hkey
  have hsame : (own.filter fun b => b.operator = a.operator).Pairwise fun b c =>
      (b.constant == c.constant) = true := by
    refine List.Pairwise.imp_of_mem ?_ (h.filter _)
    intro b c hb hc hconstants
    have hb := of_decide_eq_true (List.mem_filter.mp hb).2
    have hc := of_decide_eq_true (List.mem_filter.mp hc).2
    exact hconstants (Atom.operator_eq_iff.mp (hb.trans hc.symm))
  have hall : (∀ b ∈ own.filter fun b => b.operator = a.operator,
        (b.constant == a.constant) = true) ↔
      ∀ b ∈ own, b.relation = a.relation → (b.constant == a.constant) = true := by
    simp only [List.mem_filter, decide_eq_true_eq, Atom.operator_eq_iff, and_imp]
  -- Only the entry of the own operator is looked at.
  have hslot : Document.get? ⟨grouped Atom.operator firstConstant own⟩ a.operator =
      madeOf? firstConstant (own.filter fun b => b.operator = a.operator) :=
    lookup_grouped own a.operator
  rw [Document.place?_eq_placeUnder, Option.map_eq_some_iff, hslot]
  simp only [placeUnder_constant hsame, hall, grouped_concat]
  constructor
  · rintro ⟨w, ⟨hconstants, rfl⟩, rfl⟩
    exact ⟨hconstants, rfl⟩
  · rintro ⟨hconstants, rfl⟩
    exact ⟨_, ⟨hconstants, rfl⟩, rfl⟩

theorem fieldCondition_of_equal (h : ∀ b ∈ own, b.relation = .equal) :
    fieldCondition own = firstConstant own := by
  cases own with
  | nil => rfl
  | cons b rest => exact if_pos (h b List.mem_cons_self)

theorem fieldCondition_of_operators {b : Atom} {rest : List Atom} (h : b.relation ≠ .equal) :
    fieldCondition (b :: rest) = .document ⟨grouped Atom.operator firstConstant (b :: rest)⟩ :=
  if_neg h

/-- Beneath the name of a field an operator is placed among its operators. -/
theorem placeUnder_operators {key : String} (hown : ∀ b ∈ own, b.relation ≠ .equal) :
    Document.placeUnder a.constant [key] (madeOf? fieldCondition own) =
      .document <$> Document.place? a.constant [key]
        ⟨grouped Atom.operator firstConstant own⟩ := by
  cases own with
  | nil => rfl
  | cons b rest =>
      rw [madeOf?, fieldCondition_of_operators (hown b List.mem_cons_self)]
      rfl

/-- Nothing is placed beneath a field for which an equality and another relation meet. -/
theorem placeUnder_of_differ {b : Atom} {rest : List Atom}
    (hplain : b.constant.asDocument? = none) (ha : a.constant.asDocument? = none)
    (h : ¬(b.relation = .equal ↔ a.relation = .equal)) :
    Document.placeUnder a.constant a.relation.key?.toList
      (madeOf? fieldCondition (b :: rest)) = none := by
  by_cases hb : b.relation = .equal
  · -- An operator is placed in documents only.
    have hrelation : a.relation ≠ .equal := fun hequal => h (iff_of_true hb hequal)
    rcases exists_key?_of_ne hrelation with ⟨key, hkey⟩
    rw [madeOf?, fieldCondition, if_pos hb, hkey]
    cases hconstant : b.constant with
    | document d =>
        rw [hconstant] at hplain
        cases hplain
    | _ => rfl
  · -- A document is equal to documents only.
    have hrelation : a.relation = .equal := by
      by_contra hequal
      exact h (iff_of_false hb hequal)
    rw [madeOf?, fieldCondition_of_operators hb, hrelation]
    refine if_neg fun hequal => ?_
    have hdocument := asDocument?_of_equals ha hequal
    cases hdocument

/-- Equalities of one field have equal constants, and the first one stands under its name. -/
theorem placeUnder_equality (hown : ∀ b ∈ own, b.relation = .equal) (ha : a.relation = .equal)
    (h : own.Pairwise fun b c => b.relation = c.relation → (b.constant == c.constant) = true) :
    Document.placeUnder a.constant a.relation.key?.toList (madeOf? fieldCondition own) = some w ↔
      (∀ b ∈ own, b.relation = a.relation → (b.constant == a.constant) = true) ∧
        w = fieldCondition (own ++ [a]) := by
  have hequal : ∀ b ∈ own ++ [a], b.relation = .equal :=
    List.forall_mem_append.mpr ⟨hown, List.forall_mem_singleton.mpr ha⟩
  have hconstants : own.Pairwise fun b c => (b.constant == c.constant) = true := by
    refine List.Pairwise.imp_of_mem ?_ h
    intro b c hb hc hbc
    exact hbc ((hown b hb).trans (hown c hc).symm)
  have hmade : madeOf? fieldCondition own = madeOf? firstConstant own := by
    cases own with
    | nil => rfl
    | cons b rest => rw [madeOf?, fieldCondition_of_equal hown, madeOf?]
  rw [hmade, ha, fieldCondition_of_equal hequal]
  refine (placeUnder_constant hconstants).trans ?_
  refine and_congr_left fun _ => forall₂_congr fun b hb => ?_
  exact ⟨fun hb' _ => hb', fun hb' => hb' (hown b hb)⟩

/-- Other relations come together in a document of their operators. -/
theorem placeUnder_operator (hown : ∀ b ∈ own, b.relation ≠ .equal) (ha : a.relation ≠ .equal)
    (h : own.Pairwise fun b c => b.relation = c.relation → (b.constant == c.constant) = true) :
    Document.placeUnder a.constant a.relation.key?.toList (madeOf? fieldCondition own) = some w ↔
      (∀ b ∈ own, b.relation = a.relation → (b.constant == a.constant) = true) ∧
        w = fieldCondition (own ++ [a]) := by
  rcases exists_key?_of_ne ha with ⟨key, hkey⟩
  have hoperator : a.operator = key := by
    rw [Atom.operator, hkey]
    rfl
  have hlast : fieldCondition (own ++ [a]) =
      .document ⟨grouped Atom.operator firstConstant (own ++ [a])⟩ := by
    cases own with
    | nil => exact fieldCondition_of_operators ha
    | cons b rest => exact fieldCondition_of_operators (hown b List.mem_cons_self)
  rw [hkey, Option.toList_some, placeUnder_operators hown, hlast]
  constructor
  · intro hw
    rcases Option.map_eq_some_iff.mp hw with ⟨d, hd, rfl⟩
    rcases (place?_operators hoperator h).mp hd with ⟨hconstants, rfl⟩
    exact ⟨hconstants, rfl⟩
  · rintro ⟨hconstants, rfl⟩
    exact Option.map_eq_some_iff.mpr
      ⟨_, (place?_operators hoperator h).mpr ⟨hconstants, rfl⟩, rfl⟩

/-- Beneath the name of a field a further atom is placed exactly if it is compatible with
    those that were placed there before. -/
theorem placeUnder_field (hfield : ∀ b ∈ own, b.field = a.field)
    (h : own.Pairwise Atom.Compatible) (hplain : ∀ b ∈ own ++ [a], b.constant.asDocument? = none) :
    Document.placeUnder a.constant a.relation.key?.toList (madeOf? fieldCondition own) = some w ↔
      (∀ b ∈ own, b.Compatible a) ∧ w = fieldCondition (own ++ [a]) := by
  by_cases hsame : ∀ b ∈ own, b.relation = .equal ↔ a.relation = .equal
  · -- About one field, what is left of compatibility are the constants of one relation.
    have hpairs : own.Pairwise fun b c =>
        b.relation = c.relation → (b.constant == c.constant) = true := by
      refine List.Pairwise.imp_of_mem ?_ h
      intro b c hb hc hcompatible
      exact (hcompatible ((hfield b hb).trans (hfield c hc).symm)).2
    have hcompatible : (∀ b ∈ own, b.Compatible a) ↔
        ∀ b ∈ own, b.relation = a.relation → (b.constant == a.constant) = true := by
      refine forall₂_congr fun b hb => ?_
      exact ⟨fun hb' => (hb' (hfield b hb)).2, fun hb' _ => ⟨hsame b hb, hb'⟩⟩
    rw [hcompatible]
    by_cases ha : a.relation = .equal
    · exact placeUnder_equality (fun b hb => (hsame b hb).mpr ha) ha hpairs
    · exact placeUnder_operator (fun b hb hequal => ha ((hsame b hb).mp hequal)) ha hpairs
  · -- The first atom of the field is of the other kind, as all of them are.
    rcases not_forall₂.mp hsame with ⟨c, hc, hdiffer⟩
    cases own with
    | nil => cases hc
    | cons b rest =>
        have hfirst : b.relation = .equal ↔ c.relation = .equal := by
          rcases List.mem_cons.mp hc with rfl | hrest
          · exact Iff.rfl
          · have hboth := (hfield b List.mem_cons_self).trans (hfield c hc).symm
            exact ((List.pairwise_cons.mp h).1 c hrest hboth).1
        rw [placeUnder_of_differ (hplain b List.mem_cons_self) (hplain a List.mem_concat_self)
          fun hb => hdiffer (hfirst.symm.trans hb)]
        constructor
        · intro hw
          cases hw
        · rintro ⟨hall, _⟩
          exact absurd (hall c hc (hfield c hc)).1 hdiffer

end

/-- A further atom is placed exactly if it is compatible with those that were placed before. -/
theorem addCondition_conditionsOf {placed : List Atom} {a : Atom}
    (h : placed.Pairwise Atom.Compatible)
    (hplain : ∀ b ∈ placed ++ [a], b.constant.asDocument? = none) {d : Document} :
    (conditionsOf placed).addCondition a.scopes a.constant = .ok d ↔
      (∀ b ∈ placed, b.Compatible a) ∧ d = conditionsOf (placed ++ [a]) := by
  have hfield : ∀ b ∈ placed.filter fun b => b.field = a.field, b.field = a.field :=
    fun b hb => of_decide_eq_true (List.mem_filter.mp hb).2
  have hown : (placed.filter fun b => b.field = a.field).Pairwise Atom.Compatible := h.filter _
  have hplain' : ∀ b ∈ (placed.filter fun b => b.field = a.field) ++ [a],
      b.constant.asDocument? = none := by
    intro b hb
    rcases List.mem_append.mp hb with hb | hb
    · exact hplain b (List.mem_append_left _ (List.mem_filter.mp hb).1)
    · exact hplain b (List.mem_append_right _ hb)
  -- Atoms about other fields are not in the way.
  have hall : (∀ b ∈ placed.filter fun b => b.field = a.field, b.Compatible a) ↔
      ∀ b ∈ placed, b.Compatible a := by
    constructor
    · intro hsame b hb hfield
      exact hsame b (List.mem_filter.mpr ⟨hb, decide_eq_true hfield⟩) hfield
    · intro hevery b hb
      exact hevery b (List.mem_filter.mp hb).1
  have hslot : (conditionsOf placed).get? a.field =
      madeOf? fieldCondition (placed.filter fun b => b.field = a.field) :=
    lookup_grouped placed a.field
  have hadd : (conditionsOf placed).addCondition a.scopes a.constant = .ok d ↔
      (conditionsOf placed).place? a.constant (a.field :: a.relation.key?.toList) = some d := by
    rw [Document.addCondition, conditionPath_atom]
    dsimp only
    cases (conditionsOf placed).place? a.constant (a.field :: a.relation.key?.toList) with
    | none => exact ⟨nofun, nofun⟩
    | some d' => rw [Except.ok.injEq, Option.some.injEq]
  rw [hadd, Document.place?_eq_placeUnder, Option.map_eq_some_iff, hslot]
  simp only [placeUnder_field hfield hown hplain', hall]
  have hconcat : ∀ w, w = fieldCondition ((placed.filter fun b => b.field = a.field) ++ [a]) →
      (conditionsOf placed).insert a.field w = conditionsOf (placed ++ [a]) := by
    rintro w rfl
    exact congrArg Document.mk (grouped_concat placed a).symm
  constructor
  · rintro ⟨w, ⟨hcompatible, hw⟩, rfl⟩
    exact ⟨hcompatible, hconcat w hw⟩
  · rintro ⟨hcompatible, rfl⟩
    exact ⟨_, ⟨hcompatible, rfl⟩, hconcat _ rfl⟩

/-- Atoms that compare with no documents are placed exactly if no two of them are in each
    other's way, and then the condition document is theirs. -/
theorem placeAll_eq_ok {atoms : List Atom} (hplain : ∀ a ∈ atoms, a.constant.asDocument? = none)
    {d : Document} :
    placeAll atoms .empty = .ok d ↔
      atoms.Pairwise Atom.Compatible ∧ d = conditionsOf atoms := by
  -- The atoms placed so far are compatible and have the document of their own.
  induction atoms using List.reverseRecOn generalizing d with
  | nil =>
      constructor
      · intro h
        exact ⟨List.Pairwise.nil, (Except.ok.inj h).symm⟩
      · rintro ⟨_, rfl⟩
        rfl
  | append_singleton placed a ih =>
      have hplaced : ∀ b ∈ placed, b.constant.asDocument? = none :=
        fun b hb => hplain b (List.mem_append_left _ hb)
      rw [placeAll_append, Except.bind_eq_ok, List.pairwise_append]
      simp only [ih hplaced, placeAll_singleton]
      constructor
      · rintro ⟨_, ⟨hpairs, rfl⟩, hadd⟩
        rcases (addCondition_conditionsOf hpairs hplain).mp hadd with ⟨hcompatible, rfl⟩
        refine ⟨⟨hpairs, List.pairwise_singleton _ _, ?_⟩, rfl⟩
        intro b hb c hc
        rw [List.mem_singleton.mp hc]
        exact hcompatible b hb
      · rintro ⟨⟨hpairs, _, hcompatible⟩, rfl⟩
        refine ⟨_, ⟨hpairs, rfl⟩, (addCondition_conditionsOf hpairs hplain).mpr ⟨?_, rfl⟩⟩
        exact fun b hb => hcompatible b hb a (List.mem_singleton_self a)

end DocumentMapper
