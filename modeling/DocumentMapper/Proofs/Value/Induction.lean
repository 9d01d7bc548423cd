import DocumentMapper.Value.Document
import Mathlib.Data.List.Nodup

/-!
# Induction over values

Values contain documents, documents contain values, and arrays contain lists of
values, so an argument about all of them goes by induction over both types at once.
`Cases` lists what such an argument has to show. Three forms of value contain
others; the rest are scalars.

An array is stored as the document whose names are the places of its items
(`Document.ofItems`). The induction therefore hands an array the property of that
document, and whatever holds of documents need not be repeated for arrays.

`Throughout` says that something holds of every scalar and of the names of every
document at any depth. Documents built by insertion have pairwise different names;
`Distinct` is that throughout.

## Main definitions

* `Value.isScalar`: Forms that contain no other values.
* `Document.ofItems`: Items under their places.
* `Cases`: The cases of an induction over values and documents.
* `Value.Throughout`, `Document.Throughout`: A property at every depth.
* `Value.Distinct`, `Document.Distinct`: Different names at every depth.

## Theorems

* `Cases.value`, `Cases.all`: The induction.
* `repr_injective`: Places have different names.
* `mem_itemFields`: A field of an array is an item under a place.
* `throughout_ofItems`: A property throughout an array, if place names have it.
* `Throughout.imp`: A weaker property of scalars.
* `distinct_ofItems`: Different names throughout an array.
-/

namespace DocumentMapper

/-- The forms that contain no other values. -/
def Value.isScalar : Value → Bool
  | .document _ => false
  | .array _ => false
  | .codeWithScope _ _ => false
  | _ => true

/-- Items under the decimal texts of their places. -/
def itemFields (index : Nat) : List Value → List (String × Value)
  | [] => []
  | v :: rest => (Nat.repr index, v) :: itemFields (index + 1) rest

/-- The document that an array is stored as. -/
def Document.ofItems (items : List Value) : Document :=
  ⟨itemFields 0 items⟩

theorem itemFields_values (items : List Value) :
    ∀ index, (itemFields index items).map Prod.snd = items := by
  induction items with
  | nil =>
      intro index
      rfl
  | cons v rest ih =>
      intro index
      rw [itemFields, List.map_cons, ih]

@[simp] theorem Document.values_ofItems (items : List Value) :
    (Document.ofItems items).values = items :=
  itemFields_values items 0

theorem mem_itemFields {items : List Value} {field : String × Value} :
    ∀ {index}, field ∈ itemFields index items →
      field.2 ∈ items ∧ ∃ place, index ≤ place ∧ field.1 = Nat.repr place := by
  induction items with
  | nil =>
      intro index h
      cases h
  | cons v rest ih =>
      intro index h
      rcases List.mem_cons.mp h with rfl | h
      · exact ⟨List.mem_cons_self, index, Nat.le_refl _, rfl⟩
      · rcases ih h with ⟨hmem, place, hle, hname⟩
        exact ⟨List.mem_cons_of_mem v hmem, place, by omega, hname⟩

/-- The cases of an induction over values and documents. -/
structure Cases (P : Value → Prop) (Q : Document → Prop) : Prop where
  scalar : ∀ v, v.isScalar = true → P v
  document : ∀ d, Q d → P (.document d)
  array : ∀ items, Q (.ofItems items) → P (.array items)
  codeWithScope : ∀ source scope, Q scope → P (.codeWithScope source scope)
  fields : ∀ fields, (∀ field ∈ fields, P field.2) → Q ⟨fields⟩

namespace Cases

variable {P : Value → Prop} {Q : Document → Prop}

theorem value (h : Cases P Q) (v : Value) : P v := by
  refine Value.rec (motive_1 := P) (motive_2 := Q) (motive_3 := fun items => ∀ v ∈ items, P v)
    (motive_4 := fun fields => ∀ field ∈ fields, P field.2) (motive_5 := fun field => P field.2)
    (fun _ => h.scalar _ rfl) (fun _ => h.scalar _ rfl) h.document ?array
    (fun _ => h.scalar _ rfl) (fun _ => h.scalar _ rfl) (fun _ => h.scalar _ rfl)
    (fun _ => h.scalar _ rfl) (fun _ => h.scalar _ rfl) (h.scalar _ rfl) (fun _ => h.scalar _ rfl)
    (fun _ => h.scalar _ rfl) h.codeWithScope (fun _ => h.scalar _ rfl) (fun _ => h.scalar _ rfl)
    (h.scalar _ rfl) (h.scalar _ rfl) h.fields ?nil ?cons ?nilFields ?consFields ?field v
  -- The cases for the lists only say that all members have the property; an array's items are
  -- handed on as the fields of the document that it is stored as.
  case array =>
    intro items ih
    exact h.array items (h.fields _ fun field hfield => ih _ (mem_itemFields hfield).1)
  case nil =>
    intro v hv
    cases hv
  case cons =>
    intro head tail hhead htail v hv
    rcases List.mem_cons.mp hv with rfl | hv
    · exact hhead
    · exact htail v hv
  case nilFields =>
    intro field hfield
    cases hfield
  case consFields =>
    intro head tail hhead htail field hfield
    rcases List.mem_cons.mp hfield with rfl | hfield
    · exact hhead
    · exact htail field hfield
  case field =>
    intro name v hv
    exact hv

theorem all (h : Cases P Q) : ∀ d, Q d := by
  intro d
  rcases d with ⟨fields⟩
  exact h.fields fields fun field _ => h.value field.2

end Cases

/-! ### Properties at every depth -/

mutual

/-- A property `P` of every scalar and a property `K` of the names of every document,
    at any depth of a value. -/
def Value.Throughout (P : Value → Prop) (K : List String → Prop) : Value → Prop
  | .document d => d.Throughout P K
  | .array items => itemsThroughout P K items
  | .codeWithScope _ scope => scope.Throughout P K
  | v => P v

/-- The same for a document. -/
def Document.Throughout (P : Value → Prop) (K : List String → Prop) : Document → Prop
  | ⟨fields⟩ => K (fields.map Prod.fst) ∧ fieldsThroughout P K fields

/-- The same for items. -/
def itemsThroughout (P : Value → Prop) (K : List String → Prop) : List Value → Prop
  | [] => True
  | v :: rest => v.Throughout P K ∧ itemsThroughout P K rest

/-- The same for the values of fields. -/
def fieldsThroughout (P : Value → Prop) (K : List String → Prop) : List (String × Value) → Prop
  | [] => True
  | (_, v) :: rest => v.Throughout P K ∧ fieldsThroughout P K rest

end

section Throughout

variable {P : Value → Prop} {K : List String → Prop}

theorem Value.throughout_scalar {v : Value} (h : v.isScalar = true) :
    v.Throughout P K ↔ P v := by
  cases v <;> first | exact Iff.rfl | cases h

theorem fieldsThroughout_iff {fields : List (String × Value)} :
    fieldsThroughout P K fields ↔ ∀ field ∈ fields, field.2.Throughout P K := by
  induction fields with
  | nil =>
      rw [fieldsThroughout]
      simp
  | cons field rest ih =>
      rw [fieldsThroughout, ih, List.forall_mem_cons]

theorem Document.throughout_iff {d : Document} :
    d.Throughout P K ↔ K d.keys ∧ ∀ field ∈ d.fields, field.2.Throughout P K := by
  rcases d with ⟨fields⟩
  rw [Document.Throughout, fieldsThroughout_iff]
  rfl

theorem fieldsThroughout_itemFields (items : List Value) :
    ∀ index, fieldsThroughout P K (itemFields index items) ↔ itemsThroughout P K items := by
  induction items with
  | nil =>
      intro index
      exact Iff.rfl
  | cons v rest ih =>
      intro index
      rw [itemFields, fieldsThroughout, itemsThroughout, ih]

/-- An array has a property throughout as the document it is stored as has, where the
    names of places have the property anyway. -/
theorem throughout_ofItems (items : List Value) (hK : K (Document.ofItems items).keys) :
    (Document.ofItems items).Throughout P K ↔ (Value.array items).Throughout P K := by
  rw [Document.ofItems, Document.Throughout, Value.Throughout, fieldsThroughout_itemFields]
  exact and_iff_right hK

/-- A property of scalars throughout a document gives every weaker one. -/
theorem throughout_imp_cases {P' : Value → Prop} (hP : ∀ v, P v → P' v) :
    Cases (fun v => v.Throughout P (fun _ => True) → v.Throughout P' (fun _ => True))
      (fun d => d.Throughout P (fun _ => True) → d.Throughout P' (fun _ => True)) where
  scalar v hv h := (Value.throughout_scalar hv).mpr (hP v ((Value.throughout_scalar hv).mp h))
  document d ih h := ih h
  array items ih h :=
    (throughout_ofItems items trivial).mp (ih ((throughout_ofItems items trivial).mpr h))
  codeWithScope source scope ih h := ih h
  fields fields ih h := by
    have hfields := (Document.throughout_iff.mp h).2
    exact Document.throughout_iff.mpr
      ⟨trivial, fun field hfield => ih field hfield (hfields field hfield)⟩

theorem Document.Throughout.imp {P' : Value → Prop} {d : Document}
    (h : d.Throughout P (fun _ => True)) (hP : ∀ v, P v → P' v) :
    d.Throughout P' (fun _ => True) :=
  (throughout_imp_cases hP).all d h

end Throughout

section Decidable

variable (P : Value → Prop) (K : List String → Prop) [DecidablePred P] [DecidablePred K]

mutual

/-- A property at every depth is decided where it is decided of scalars and of names. -/
def Value.decidableThroughout : (v : Value) → Decidable (v.Throughout P K)
  | .document d => d.decidableThroughout
  | .array items => decidableItemsThroughout items
  | .codeWithScope _ scope => scope.decidableThroughout
  | .double d => inferInstanceAs (Decidable (P (.double d)))
  | .string s => inferInstanceAs (Decidable (P (.string s)))
  | .binary b => inferInstanceAs (Decidable (P (.binary b)))
  | .uuid u => inferInstanceAs (Decidable (P (.uuid u)))
  | .objectId id => inferInstanceAs (Decidable (P (.objectId id)))
  | .boolean b => inferInstanceAs (Decidable (P (.boolean b)))
  | .instant t => inferInstanceAs (Decidable (P (.instant t)))
  | .null => inferInstanceAs (Decidable (P .null))
  | .pattern p => inferInstanceAs (Decidable (P (.pattern p)))
  | .code source => inferInstanceAs (Decidable (P (.code source)))
  | .int32 n => inferInstanceAs (Decidable (P (.int32 n)))
  | .int64 n => inferInstanceAs (Decidable (P (.int64 n)))
  | .minKey => inferInstanceAs (Decidable (P .minKey))
  | .maxKey => inferInstanceAs (Decidable (P .maxKey))

/-- The same for a document. -/
def Document.decidableThroughout : (d : Document) → Decidable (d.Throughout P K)
  | ⟨fields⟩ =>
    have := decidableFieldsThroughout fields
    inferInstanceAs (Decidable (K (fields.map Prod.fst) ∧ fieldsThroughout P K fields))

/-- The same for items. -/
def decidableItemsThroughout : (items : List Value) → Decidable (itemsThroughout P K items)
  | [] => inferInstanceAs (Decidable True)
  | v :: rest =>
    have := v.decidableThroughout
    have := decidableItemsThroughout rest
    inferInstanceAs (Decidable (v.Throughout P K ∧ itemsThroughout P K rest))

/-- The same for the values of fields. -/
def decidableFieldsThroughout :
    (fields : List (String × Value)) → Decidable (fieldsThroughout P K fields)
  | [] => inferInstanceAs (Decidable True)
  | (_, v) :: rest =>
    have := v.decidableThroughout
    have := decidableFieldsThroughout rest
    inferInstanceAs (Decidable (v.Throughout P K ∧ fieldsThroughout P K rest))

end

end Decidable

/-- Different names in every document at any depth of a value. -/
def Value.Distinct (v : Value) : Prop :=
  v.Throughout (fun _ => True) List.Nodup

/-- Different names in a document and in every document at any depth. -/
def Document.Distinct (d : Document) : Prop :=
  d.Throughout (fun _ => True) List.Nodup

instance (v : Value) : Decidable v.Distinct :=
  v.decidableThroughout _ _

instance (d : Document) : Decidable d.Distinct :=
  d.decidableThroughout _ _

theorem repr_injective {m n : Nat} (h : Nat.repr m = Nat.repr n) : m = n := by
  have hdigits : Nat.toDigits 10 m = Nat.toDigits 10 n := by
    rw [← Nat.toList_repr, ← Nat.toList_repr, h]
  calc m = Nat.ofDigitChars 10 (Nat.toDigits 10 m) 0 := Nat.ofDigitChars_ten_toDigits.symm
    _ = Nat.ofDigitChars 10 (Nat.toDigits 10 n) 0 := by rw [hdigits]
    _ = n := Nat.ofDigitChars_ten_toDigits

theorem nodup_itemFields (items : List Value) :
    ∀ index, ((itemFields index items).map Prod.fst).Nodup := by
  induction items with
  | nil =>
      intro index
      exact List.nodup_nil
  | cons v rest ih =>
      intro index
      rw [itemFields, List.map_cons, List.nodup_cons]
      refine ⟨?_, ih (index + 1)⟩
      intro h
      rcases List.mem_map.mp h with ⟨field, hfield, hname⟩
      rcases mem_itemFields hfield with ⟨_, place, hle, hplace⟩
      have := repr_injective (hplace.symm.trans hname)
      omega

theorem distinct_ofItems (items : List Value) :
    (Document.ofItems items).Distinct ↔ (Value.array items).Distinct :=
  throughout_ofItems items (nodup_itemFields items 0)

end DocumentMapper
