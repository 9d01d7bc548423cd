import DocumentMapper.Proofs.Value.Canonical
import DocumentMapper.Value.ExtendedJson

/-!
# What extended JSON says of a value

Every form of value has a form of JSON. Truth, integers, texts, arrays and documents have
one of their own; all others are objects with names that begin with a dollar sign, and so
is a double that is no number. `Value.ExtendedAs` lists these forms, for documents field by
field and for arrays item by item; the tree of a value is the one that it allows
(`extendedAs_iff`).

The tree shows the byte of a subtype and not its name. So a value and what its bytes stand
for have the same tree (`toJson_canonical`).

## Main definitions

* `Double.ExtendedAs`: The tree of a double.
* `Value.ExtendedAs`, `Document.ExtendedAs`: The tree of a value and of a document.

## Theorems

* `integerText_eq`: Integers are written in decimal.
* `Value.extendedAs_iff`, `Document.extendedAs_iff`: There is one tree for a value.
* `Document.toJson_canonical`: Subtypes are shown as their bytes.
-/

namespace DocumentMapper

theorem integerText_eq (n : Int) : integerText n = toString n := by
  unfold integerText
  cases n with
  | ofNat m => rfl
  | negSucc m =>
      rw [if_pos (Int.negSucc_lt_zero m)]
      rfl

/-- A finite double is a number, and any other an object that names it. -/
inductive Double.ExtendedAs (d : Double) : Json → Prop where
  | finite (h : d.isFinite = true) : ExtendedAs d (.number (numberLayout.render d))
  | nan (h : d.isNaN = true) : ExtendedAs d (.object [("$numberDouble", .string "NaN")])
  | infinity (h : d.isInfinite = true) (positive : d.isNegative = false) :
      ExtendedAs d (.object [("$numberDouble", .string "Infinity")])
  | negativeInfinity (h : d.isInfinite = true) (negative : d.isNegative = true) :
      ExtendedAs d (.object [("$numberDouble", .string "-Infinity")])

mutual

/-- The tree of a value. -/
inductive Value.ExtendedAs : Value → Json → Prop where
  | null : Value.ExtendedAs .null .null
  | boolean (b : Bool) : Value.ExtendedAs (.boolean b) (.bool b)
  | int32 (n : Int32) : Value.ExtendedAs (.int32 n) (.number (toString n.toInt))
  | int64 (n : Int64) : Value.ExtendedAs (.int64 n) (.number (toString n.toInt))
  | double {d : Double} {j : Json} (extended : d.ExtendedAs j) : Value.ExtendedAs (.double d) j
  | string (s : String) : Value.ExtendedAs (.string s) (.string s)
  | document {d : Document} {j : Json} (extended : Document.ExtendedAs d j) :
      Value.ExtendedAs (.document d) j
  | array {items : List Value} {js : List Json} (extended : ItemsExtendedAs items js) :
      Value.ExtendedAs (.array items) (.array js)
  /-- Two digits show the byte of a subtype. -/
  | binary (b : Binary) : Value.ExtendedAs (.binary b) (.object [("$binary", .object
      [("base64", .string (Base64.encode b.bytes)),
        ("subType", .string (Hex.encode [b.subtype.code]))])])
  | uuid (u : Uuid) : Value.ExtendedAs (.uuid u) (.object [("$uuid", .string u.text)])
  | objectId (id : ObjectId) : Value.ExtendedAs (.objectId id) (.object [("$oid", .string id.hex)])
  | instant (t : Instant) :
      Value.ExtendedAs (.instant t) (.object [("$date", .string (t.iso .always "Z"))])
  | pattern (p : Pattern) : Value.ExtendedAs (.pattern p) (.object [("$regularExpression", .object
      [("pattern", .string p.source), ("options", .string p.options)])])
  | code (source : String) : Value.ExtendedAs (.code source) (.object [("$code", .string source)])
  | codeWithScope {source : String} {scope : Document} {j : Json}
      (extended : Document.ExtendedAs scope j) :
      Value.ExtendedAs (.codeWithScope source scope)
        (.object [("$code", .string source), ("$scope", j)])
  | minKey : Value.ExtendedAs .minKey (.object [("$minKey", .number "1")])
  | maxKey : Value.ExtendedAs .maxKey (.object [("$maxKey", .number "1")])

/-- The tree of a document: its names with the trees of their values, in order. -/
inductive Document.ExtendedAs : Document → Json → Prop where
  | mk {fields : List (String × Value)} {members : List (String × Json)}
      (extended : FieldsExtendedAs fields members) : Document.ExtendedAs ⟨fields⟩ (.object members)

/-- The trees of items. -/
inductive ItemsExtendedAs : List Value → List Json → Prop where
  | nil : ItemsExtendedAs [] []
  | cons {v : Value} {j : Json} {items : List Value} {js : List Json}
      (extended : Value.ExtendedAs v j) (rest : ItemsExtendedAs items js) :
      ItemsExtendedAs (v :: items) (j :: js)

/-- The trees of the values of fields, under their names. -/
inductive FieldsExtendedAs : List (String × Value) → List (String × Json) → Prop where
  | nil : FieldsExtendedAs [] []
  | cons {name : String} {v : Value} {j : Json} {fields : List (String × Value)}
      {members : List (String × Json)} (extended : Value.ExtendedAs v j)
      (rest : FieldsExtendedAs fields members) :
      FieldsExtendedAs ((name, v) :: fields) ((name, j) :: members)

end

/-! ### One tree for a value -/

namespace Double

variable {d : Double}

theorem not_finite_of_nan (h : d.isNaN = true) : d.isFinite = false := by
  unfold isNaN at h
  unfold isFinite
  rw [decide_eq_true_iff] at h
  exact decide_eq_false (by omega)

theorem toJson_of_nan (h : d.isNaN = true) :
    d.toJson = .object [("$numberDouble", .string "NaN")] := by
  rw [toJson, if_neg (by rw [not_finite_of_nan h]; decide), Decimal.Layout.render, if_pos h]

theorem toJson_of_infinite (h : d.isInfinite = true) : d.toJson = .object [("$numberDouble",
    .string (String.ofList ((if d.isNegative then ['-'] else []) ++ "Infinity".toList)))] := by
  have hmagnitude : d.magnitude = infiniteMagnitude := of_decide_eq_true h
  have hfinite : d.isFinite = false := decide_eq_false (by omega)
  have hnan : d.isNaN = false := decide_eq_false (by omega)
  rw [toJson, hfinite, if_neg Bool.false_ne_true, Decimal.Layout.render, hnan,
    if_neg Bool.false_ne_true, h]
  rfl

theorem eq_toJson {j : Json} (h : d.ExtendedAs j) : j = d.toJson := by
  cases h with
  | finite h => rw [toJson, if_pos h]
  | nan h => rw [toJson_of_nan h]
  | infinity h positive =>
      rw [toJson_of_infinite h, positive]
      rfl
  | negativeInfinity h negative =>
      rw [toJson_of_infinite h, negative]
      rfl

theorem extendedAs_toJson (d : Double) : d.ExtendedAs d.toJson := by
  have hexists : ∃ j, d.ExtendedAs j := by
    rcases Nat.lt_trichotomy d.magnitude infiniteMagnitude with h | h | h
    · exact ⟨_, .finite (decide_eq_true h)⟩
    · cases hsign : d.isNegative with
      | false => exact ⟨_, .infinity (decide_eq_true h) hsign⟩
      | true => exact ⟨_, .negativeInfinity (decide_eq_true h) hsign⟩
    · exact ⟨_, .nan (decide_eq_true h)⟩
  rcases hexists with ⟨j, hj⟩
  rw [← eq_toJson hj]
  exact hj

end Double

mutual

theorem Value.extendedAs_toJson : ∀ v : Value, v.ExtendedAs v.toJson
  | .null => .null
  | .boolean b => .boolean b
  | .int32 n => by
      rw [Value.toJson, integerText_eq]
      exact .int32 n
  | .int64 n => by
      rw [Value.toJson, integerText_eq]
      exact .int64 n
  | .double d => .double d.extendedAs_toJson
  | .string s => .string s
  | .document d => .document d.extendedAs_toJson
  | .array items => .array (itemsExtendedAs_toJson items)
  | .binary b => .binary b
  | .uuid u => .uuid u
  | .objectId id => .objectId id
  | .instant t => .instant t
  | .pattern p => .pattern p
  | .code source => .code source
  | .codeWithScope _ scope => .codeWithScope scope.extendedAs_toJson
  | .minKey => .minKey
  | .maxKey => .maxKey

theorem Document.extendedAs_toJson : ∀ d : Document, d.ExtendedAs d.toJson
  | ⟨fields⟩ => .mk (fieldsExtendedAs_toJson fields)

theorem itemsExtendedAs_toJson : ∀ items : List Value, ItemsExtendedAs items (itemsToJson items)
  | [] => .nil
  | v :: rest => .cons v.extendedAs_toJson (itemsExtendedAs_toJson rest)

theorem fieldsExtendedAs_toJson :
    ∀ fields : List (String × Value), FieldsExtendedAs fields (fieldsToJson fields)
  | [] => .nil
  | (_, v) :: rest => .cons v.extendedAs_toJson (fieldsExtendedAs_toJson rest)

end

mutual

theorem Value.eq_toJson : ∀ {v : Value} {j : Json}, v.ExtendedAs j → j = v.toJson
  | _, _, .null => rfl
  | _, _, .boolean _ => rfl
  | _, _, .int32 n => congrArg Json.number (integerText_eq n.toInt).symm
  | _, _, .int64 n => congrArg Json.number (integerText_eq n.toInt).symm
  | _, _, .double extended => Double.eq_toJson extended
  | _, _, .string _ => rfl
  | _, _, .document extended => Document.eq_toJson extended
  | _, _, .array extended => congrArg Json.array (eq_itemsToJson extended)
  | _, _, .binary _ => rfl
  | _, _, .uuid _ => rfl
  | _, _, .objectId _ => rfl
  | _, _, .instant _ => rfl
  | _, _, .pattern _ => rfl
  | _, _, .code _ => rfl
  | _, _, .codeWithScope extended => by
      rw [Document.eq_toJson extended]
      rfl
  | _, _, .minKey => rfl
  | _, _, .maxKey => rfl

theorem Document.eq_toJson : ∀ {d : Document} {j : Json}, d.ExtendedAs j → j = d.toJson
  | _, _, .mk extended => congrArg Json.object (eq_fieldsToJson extended)

theorem eq_itemsToJson : ∀ {items : List Value} {js : List Json}, ItemsExtendedAs items js →
    js = itemsToJson items
  | _, _, .nil => rfl
  | _, _, .cons extended rest => by
      rw [Value.eq_toJson extended, eq_itemsToJson rest]
      rfl

theorem eq_fieldsToJson : ∀ {fields : List (String × Value)} {members : List (String × Json)},
    FieldsExtendedAs fields members → members = fieldsToJson fields
  | _, _, .nil => rfl
  | _, _, .cons extended rest => by
      rw [Value.eq_toJson extended, eq_fieldsToJson rest]
      rfl

end

theorem Value.extendedAs_iff {v : Value} {j : Json} : v.ExtendedAs j ↔ j = v.toJson := by
  refine ⟨Value.eq_toJson, ?_⟩
  rintro rfl
  exact v.extendedAs_toJson

theorem Document.extendedAs_iff {d : Document} {j : Json} : d.ExtendedAs j ↔ j = d.toJson := by
  refine ⟨Document.eq_toJson, ?_⟩
  rintro rfl
  exact d.extendedAs_toJson

/-! ### Subtypes -/

theorem Binary.toJson_canonical (b : Binary) : b.canonical.toJson = b.toJson := by
  have hcode : b.canonical.subtype.code = b.subtype.code := BinarySubtype.code_ofCode _
  unfold toJson
  rw [hcode]
  rfl

mutual

theorem Value.toJson_canonical : ∀ v : Value, v.canonical.toJson = v.toJson
  | .binary b => b.toJson_canonical
  | .document d => d.toJson_canonical
  | .array items => congrArg Json.array (itemsToJson_canonical items)
  | .codeWithScope source scope => by
      rw [Value.canonical, Value.toJson, Value.toJson, scope.toJson_canonical]
  | .null | .boolean _ | .int32 _ | .int64 _ | .double _ | .string _ | .uuid _ | .objectId _
  | .instant _ | .pattern _ | .code _ | .minKey | .maxKey => rfl

/-- A document and what its bytes stand for are shown alike. -/
theorem Document.toJson_canonical : ∀ d : Document, d.canonical.toJson = d.toJson
  | ⟨fields⟩ => congrArg Json.object (fieldsToJson_canonical fields)

theorem itemsToJson_canonical :
    ∀ items : List Value, itemsToJson (itemsCanonical items) = itemsToJson items
  | [] => rfl
  | v :: rest => by
      rw [itemsCanonical, itemsToJson, itemsToJson, v.toJson_canonical, itemsToJson_canonical rest]

theorem fieldsToJson_canonical :
    ∀ fields : List (String × Value), fieldsToJson (fieldsCanonical fields) = fieldsToJson fields
  | [] => rfl
  | (_, v) :: rest => by
      rw [fieldsCanonical, fieldsToJson, fieldsToJson, v.toJson_canonical,
        fieldsToJson_canonical rest]

end

end DocumentMapper
