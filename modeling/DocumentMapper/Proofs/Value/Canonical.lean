import DocumentMapper.Proofs.Value.Induction
import DocumentMapper.Value.Identifier

/-!
# Codes that users chose

The subtype of a binary is stored as one byte. Users choose bytes for meanings of their
own, and nothing keeps them from choosing one that has a name already. The byte does not
say then which of the two was meant, and a reader takes the one that has the name
(`canonical`).

Mostly that changes the name of the subtype and nothing else. Two subtypes however are
stored in a way of their own: general bytes have a second length, and sixteen bytes of
the older subtype for identifiers are an identifier. A binary of users with such a code
looks like something that it is not. All others are `Unambiguous`.

## Main definitions

* `BinarySubtype.IsCanonical`, `Document.IsCanonical`: No code of users has a name.
* `Value.canonical`, `Document.canonical`: With the subtypes that the bytes stand for.
* `Binary.Unambiguous`, `Document.Unambiguous`: Binaries that look like what they are.

## Theorems

* `canonical_of_isCanonical`: A canonical document is left as it is.
* `unambiguous_of_isCanonical`: It is unambiguous, too.
* `values_canonical_ofItems`: The document that an array is stored as.
-/

namespace DocumentMapper

namespace BinarySubtype

/-- The subtype that the byte of a subtype stands for. -/
def canonical (s : BinarySubtype) : BinarySubtype :=
  ofCode s.code

/-- Users chose a code without a name. -/
def IsCanonical : BinarySubtype → Prop
  | userDefined code => 5 < code
  | _ => True

instance : DecidablePred IsCanonical
  | userDefined code => inferInstanceAs (Decidable (5 < code))
  | general | function | binaryOld | uuidOld | uuid | md5 => inferInstanceAs (Decidable True)

theorem ofCode_of_lt {code : UInt8} (h : 5 < code) : ofCode code = userDefined code := by
  unfold ofCode
  split <;> first | rfl | exact absurd h (by decide)

theorem canonical_of_isCanonical {s : BinarySubtype} (h : s.IsCanonical) : s.canonical = s := by
  cases s with
  | userDefined code => exact ofCode_of_lt h
  | _ => rfl

/-- What a byte stands for is canonical: the first six have a name. -/
theorem isCanonical_ofCode (code : UInt8) : (ofCode code).IsCanonical := by
  unfold ofCode
  split <;> grind [IsCanonical]

end BinarySubtype

namespace Binary

/-- A binary with the subtype that its bytes stand for. -/
def canonical (b : Binary) : Binary :=
  ⟨b.subtype.canonical, b.bytes⟩

/-- A binary that looks like what it is: its subtype is not one of users with the code of
    general bytes, and with the code of identifiers it is not as long as one. -/
def Unambiguous (b : Binary) : Prop :=
  b.subtype ≠ .userDefined BinarySubtype.general.code ∧
    (b.subtype = .userDefined BinarySubtype.uuidOld.code → b.bytes.length ≠ 16)

instance : DecidablePred Unambiguous := fun b =>
  inferInstanceAs (Decidable (b.subtype ≠ .userDefined BinarySubtype.general.code ∧
    (b.subtype = .userDefined BinarySubtype.uuidOld.code → b.bytes.length ≠ 16)))

theorem unambiguous_of_isCanonical {b : Binary} (h : b.subtype.IsCanonical) : b.Unambiguous := by
  constructor
  · intro hgeneral
    rw [hgeneral] at h
    exact absurd (show (5 : UInt8) < 0 from h) (by decide)
  · intro huuid
    rw [huuid] at h
    exact absurd (show (5 : UInt8) < 3 from h) (by decide)

variable {b : Binary}

theorem code_ne_general (h : b.Unambiguous) (hspecial : b.subtype ≠ .general) :
    b.subtype.code ≠ BinarySubtype.general.code := by
  intro hcode
  rcases b with ⟨subtype, bytes⟩
  cases subtype with
  | general => exact hspecial rfl
  | userDefined code => exact h.1 (congrArg _ hcode)
  | _ => cases hcode

/-- What has not the form of an identifier has not either as its bytes stand for. -/
theorem isStoredUuid_canonical (h : b.Unambiguous) (hstored : b.isStoredUuid = false) :
    b.canonical.isStoredUuid = false := by
  unfold isStoredUuid at hstored ⊢
  rw [Bool.and_eq_false_iff, decide_eq_false_iff_not, decide_eq_false_iff_not] at hstored ⊢
  by_cases hlength : b.bytes.length = 16
  · refine .inl fun huuid => ?_
    have hcode : b.subtype.code = BinarySubtype.uuidOld.code := by
      rw [← BinarySubtype.code_ofCode b.subtype.code]
      exact congrArg BinarySubtype.code huuid
    rcases b with ⟨subtype, bytes⟩
    cases subtype with
    | uuidOld => exact hstored.elim (absurd rfl) (absurd hlength)
    | userDefined code => exact h.2 (congrArg _ hcode) hlength
    | _ => cases hcode
  · exact .inr hlength

end Binary

/-! ### At every depth -/

/-- What is asked of a binary, asked of a scalar. -/
def Value.OfBinary (P : Binary → Prop) : Value → Prop
  | .binary b => P b
  | _ => True

instance {P : Binary → Prop} [DecidablePred P] : DecidablePred (Value.OfBinary P) := fun v =>
  match v with
  | .binary b => inferInstanceAs (Decidable (P b))
  | .double _ | .string _ | .document _ | .array _ | .uuid _ | .objectId _ | .boolean _
  | .instant _ | .null | .pattern _ | .code _ | .codeWithScope _ _ | .int32 _ | .int64 _
  | .minKey | .maxKey => inferInstanceAs (Decidable True)

namespace Document

/-- No binary at any depth has a code of users that has a name. -/
def IsCanonical (d : Document) : Prop :=
  d.Throughout (Value.OfBinary fun b => b.subtype.IsCanonical) (fun _ => True)

/-- All binaries at any depth look like what they are. -/
def Unambiguous (d : Document) : Prop :=
  d.Throughout (Value.OfBinary Binary.Unambiguous) (fun _ => True)

instance : DecidablePred IsCanonical := fun d =>
  d.decidableThroughout _ _

instance : DecidablePred Unambiguous := fun d =>
  d.decidableThroughout _ _

end Document

namespace Value

/-- No binary at any depth has a code of users that has a name. -/
def IsCanonical (v : Value) : Prop :=
  v.Throughout (OfBinary fun b => b.subtype.IsCanonical) (fun _ => True)

/-- All binaries at any depth look like what they are. -/
def Unambiguous (v : Value) : Prop :=
  v.Throughout (OfBinary Binary.Unambiguous) (fun _ => True)

instance : DecidablePred IsCanonical := fun v =>
  v.decidableThroughout _ _

end Value

mutual

/-- A value with the subtypes that its bytes stand for. -/
def Value.canonical : Value → Value
  | .binary b => .binary b.canonical
  | .document d => .document d.canonical
  | .array items => .array (itemsCanonical items)
  | .codeWithScope source scope => .codeWithScope source scope.canonical
  | v => v

/-- A document with the subtypes that its bytes stand for. -/
def Document.canonical : Document → Document
  | ⟨fields⟩ => ⟨fieldsCanonical fields⟩

/-- The same for items. -/
def itemsCanonical : List Value → List Value
  | [] => []
  | v :: rest => v.canonical :: itemsCanonical rest

/-- The same for the values of fields. -/
def fieldsCanonical : List (String × Value) → List (String × Value)
  | [] => []
  | (name, v) :: rest => (name, v.canonical) :: fieldsCanonical rest

end

theorem itemsCanonical_eq_map (items : List Value) :
    itemsCanonical items = items.map Value.canonical := by
  induction items with
  | nil => rfl
  | cons v rest ih => rw [itemsCanonical, ih, List.map_cons]

theorem fieldsCanonical_eq_map (fields : List (String × Value)) :
    fieldsCanonical fields = fields.map fun field => (field.1, field.2.canonical) := by
  induction fields with
  | nil => rfl
  | cons field rest ih => rw [fieldsCanonical, ih, List.map_cons]

theorem map_fst_fieldsCanonical (fields : List (String × Value)) :
    (fieldsCanonical fields).map Prod.fst = fields.map Prod.fst := by
  rw [fieldsCanonical_eq_map, List.map_map]
  rfl

/-- The values of the document that an array is stored as are changed as its items are. -/
theorem values_canonical_ofItems (items : List Value) :
    (Document.ofItems items).canonical.values = itemsCanonical items := by
  rw [Document.ofItems, Document.canonical, Document.values, fieldsCanonical_eq_map, List.map_map,
    itemsCanonical_eq_map, ← itemFields_values items 0, List.map_map]
  rw [itemFields_values items 0]
  rfl

theorem canonical_cases :
    Cases (fun v => v.IsCanonical → v.canonical = v)
      (fun d => d.IsCanonical → d.canonical = d) where
  scalar v hv h := by
    cases v with
    | binary b =>
        have hsubtype : b.subtype.canonical = b.subtype := BinarySubtype.canonical_of_isCanonical h
        rw [Value.canonical, Binary.canonical, hsubtype]
    | document d => cases hv
    | array items => cases hv
    | codeWithScope source scope => cases hv
    | _ => rfl
  document d ih h := congrArg Value.document (ih h)
  array items ih h := by
    have hitems := ih ((throughout_ofItems items trivial).mpr h)
    rw [Value.canonical, ← values_canonical_ofItems, hitems, Document.values_ofItems]
  codeWithScope source scope ih h := congrArg (Value.codeWithScope source) (ih h)
  fields fields ih h := by
    have hfields := (Document.throughout_iff.mp h).2
    rw [Document.canonical, fieldsCanonical_eq_map]
    refine congrArg Document.mk ((List.map_congr_left fun field hfield => ?_).trans (List.map_id _))
    rw [ih field hfield (hfields field hfield)]
    rfl

/-- A canonical document is read with the subtypes that it has. -/
theorem Document.canonical_of_isCanonical {d : Document} (h : d.IsCanonical) : d.canonical = d :=
  canonical_cases.all d h

theorem Document.unambiguous_of_isCanonical {d : Document} (h : d.IsCanonical) : d.Unambiguous := by
  refine h.imp fun v hv => ?_
  cases v with
  | binary b => exact Binary.unambiguous_of_isCanonical hv
  | _ => exact trivial

end DocumentMapper
