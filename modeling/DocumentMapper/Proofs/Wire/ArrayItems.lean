import DocumentMapper.Proofs.Wire.Delimiting
import DocumentMapper.Proofs.Value.Document
import Mathlib.Data.List.Dedup

/-!
# The items of an array that was read

An array is written like a document, each item under a name, and the reader takes it as it
takes a document: the fields are inserted one after another, and the values that are there
in the end are the items. The names make no difference to the order, since a new name comes
last. But an item under a name that was there before goes into the place of the earlier
one, which is lost.

To compare the items with what the bytes hold, the bytes are given a tree that keeps every
field of every container, whatever its name is (`Wire`, `DocumentSpells`). What the reader
makes of the tree is a function of it (`Wire.decoded`), and the bytes that are accepted are
those of some tree. So what is said of the arrays of all trees is said of every array that
is read, however deep it lies.

## Main definitions

* `Wire`: A value as it was written.
* `Wire.decoded`: The value that the reader makes of it.
* `DocumentSpells`, `FieldsSpell`, `ValueSpells`: The bytes of a tree.

## Theorems

* `nodup_of_length_ofList`: Names of which none is lost are different.
* `denotes_of_spells`, `spells_of_denotes`: The bytes of trees are the bytes that stand for
  documents.
* `array_decoded_iff`: The arrays of which all items are kept.
* `read_arrays`: What is read, and the items of its arrays.
-/

namespace DocumentMapper

/-- Where no name is lost by inserting fields one after another the names are different. -/
theorem Fields.nodup_of_length_ofList {α : Type} {fields : List (String × α)}
    (h : (Fields.ofList fields).length = fields.length) : (fields.map Prod.fst).Nodup := by
  have hsame : ((Fields.ofList fields).map Prod.fst).Perm (fields.map Prod.fst).dedup := by
    refine (List.perm_ext_iff_of_nodup (nodup_ofList fields) (List.nodup_dedup _)).mpr
      fun name => ?_
    rw [List.mem_dedup]
    constructor
    · intro hname
      rcases List.mem_map.mp hname with ⟨field, hfield, rfl⟩
      exact List.mem_map_of_mem (mem_of_mem_ofList hfield)
    · intro hname
      exact mem_keys_foldl_insert fields [] (.inr hname)
  -- The names are as many as without repetitions.
  have hlength : (fields.map Prod.fst).dedup.length = (fields.map Prod.fst).length := by
    rw [← hsame.length_eq, List.length_map, h, List.length_map]
  exact List.dedup_eq_self.mp ((List.dedup_sublist _).eq_of_length hlength)

/-- A value as it was written: a container has all its fields, in order and whatever their
    names are. -/
inductive Wire where
  | scalar (v : Value)
  | document (fields : List (String × Wire))
  | array (items : List (String × Wire))
  | codeWithScope (source : String) (scope : List (String × Wire))

namespace Wire

mutual

/-- The value that the reader makes of what was written. -/
def decoded : Wire → Value
  | scalar v => v
  | document fields => .document (.ofList (decodedFields fields))
  | array items => .array (Document.ofList (decodedFields items)).values
  | codeWithScope source scope => .codeWithScope source (.ofList (decodedFields scope))

def decodedFields : List (String × Wire) → List (String × Value)
  | [] => []
  | (name, w) :: rest => (name, w.decoded) :: decodedFields rest

end

theorem decodedFields_eq (fields : List (String × Wire)) :
    decodedFields fields = fields.map fun field => (field.1, field.2.decoded) := by
  induction fields with
  | nil => rw [decodedFields, List.map_nil]
  | cons field rest ih => rw [decodedFields, List.map_cons, ih]

/-- An array has all its items exactly if they have different names. -/
theorem array_decoded_iff (items : List (String × Wire)) :
    (Wire.array items).decoded = .array (items.map fun item => item.2.decoded) ↔
      (items.map Prod.fst).Nodup := by
  have hnames : (decodedFields items).map Prod.fst = items.map Prod.fst := by
    rw [decodedFields_eq, List.map_map]
    rfl
  have hvalues : (decodedFields items).map Prod.snd = items.map fun item => item.2.decoded := by
    rw [decodedFields_eq, List.map_map]
    rfl
  rw [decoded, Value.array.injEq, ← hvalues, ← hnames]
  constructor
  · -- An item that is lost is missing in the number of items.
    intro h
    have hlength := congrArg List.length h
    rw [Document.values, List.length_map, List.length_map] at hlength
    exact Fields.nodup_of_length_ofList hlength
  · intro h
    rw [Document.ofList, Fields.ofList_of_nodup h]
    rfl

end Wire

/-! ### The bytes of a tree -/

mutual

/-- The bytes of a document with these fields: a length that covers all of them, the bytes
    of the fields, and a zero byte. -/
inductive DocumentSpells : List UInt8 → List (String × Wire) → Prop where
  | mk {lead body : List UInt8} {fields : List (String × Wire)}
      (length : Announces lead (lead ++ (body ++ [0])).length) (spells : FieldsSpell body fields) :
      DocumentSpells (lead ++ (body ++ [0])) fields

/-- The bytes of fields: for each a tag, a name with a zero byte, and a value. -/
inductive FieldsSpell : List UInt8 → List (String × Wire) → Prop where
  | nil : FieldsSpell [] []
  | cons {type : ElementType} {name : String} {value rest : List UInt8} {w : Wire}
      {fields : List (String × Wire)} (nulFree : NulFree name)
      (valueSpells : ValueSpells type value w)
      (restSpell : FieldsSpell rest fields) :
      FieldsSpell (type.tag.toUInt8 :: ((Utf8.encode name ++ [0]) ++ (value ++ rest)))
        ((name, w) :: fields)

/-- The bytes of a value of some form, without its tag and name. Those of an array are those
    of a document. -/
inductive ValueSpells : ElementType → List UInt8 → Wire → Prop where
  | scalar {type : ElementType} {bytes : List UInt8} {v : Value} {trusted : List Trusted}
      (denotes : ScalarDenotes type bytes v trusted) : ValueSpells type bytes (.scalar v)
  | document {bytes : List UInt8} {fields : List (String × Wire)}
      (spells : DocumentSpells bytes fields) : ValueSpells .document bytes (.document fields)
  | array {bytes : List UInt8} {items : List (String × Wire)}
      (spells : DocumentSpells bytes items) : ValueSpells .array bytes (.array items)
  | codeWithScope {lead source scope : List UInt8} {s : String} {fields : List (String × Wire)}
      {trusted : List Trusted} (length : Announces lead (lead ++ (source ++ scope)).length)
      (sourceDenotes : TextDenotes source s trusted) (scopeSpells : DocumentSpells scope fields) :
      ValueSpells .codeWithScope (lead ++ (source ++ scope)) (.codeWithScope s fields)

end

mutual

/-- The bytes of a tree stand for what the reader makes of it. -/
theorem denotes_of_spells : ∀ {bytes : List UInt8} {fields : List (String × Wire)},
    DocumentSpells bytes fields →
      ∃ trusted, DocumentDenotes bytes (.ofList (Wire.decodedFields fields)) trusted
  | _, _, .mk length spells => by
      rcases fields_denote_of_spell spells with ⟨trusted, hdenote⟩
      exact ⟨trusted, .mk length hdenote⟩

theorem fields_denote_of_spell : ∀ {bytes : List UInt8} {fields : List (String × Wire)},
    FieldsSpell bytes fields → ∃ trusted, FieldsDenote bytes (Wire.decodedFields fields) trusted
  | _, _, .nil => ⟨[], by rw [Wire.decodedFields]; exact .nil⟩
  | _, _, .cons nulFree valueSpells restSpell => by
      rcases value_denotes_of_spells valueSpells with ⟨first, hvalue⟩
      rcases fields_denote_of_spell restSpell with ⟨more, hrest⟩
      rw [Wire.decodedFields]
      exact ⟨first ++ more, .cons nulFree hvalue hrest⟩

theorem value_denotes_of_spells : ∀ {type : ElementType} {bytes : List UInt8} {w : Wire},
    ValueSpells type bytes w → ∃ trusted, ValueDenotes type bytes w.decoded trusted
  | _, _, _, .scalar denotes => by
      rw [Wire.decoded]
      exact ⟨_, .scalar denotes⟩
  | _, _, _, .document spells => by
      rcases denotes_of_spells spells with ⟨trusted, hdenotes⟩
      rw [Wire.decoded]
      exact ⟨trusted, .document hdenotes⟩
  | _, _, _, .array spells => by
      rcases denotes_of_spells spells with ⟨trusted, hdenotes⟩
      rw [Wire.decoded]
      exact ⟨trusted, .array hdenotes⟩
  | _, _, _, .codeWithScope length sourceDenotes scopeSpells => by
      rcases denotes_of_spells scopeSpells with ⟨more, hscope⟩
      rw [Wire.decoded]
      exact ⟨_, .codeWithScope length sourceDenotes hscope⟩

end

mutual

/-- Bytes that stand for a document are those of a tree. -/
theorem spells_of_denotes : ∀ {bytes : List UInt8} {d : Document} {trusted : List Trusted},
    DocumentDenotes bytes d trusted →
      ∃ fields, DocumentSpells bytes fields ∧ d = .ofList (Wire.decodedFields fields)
  | _, _, _, .mk length denotes => by
      rcases fields_spell_of_denote denotes with ⟨wires, hspell, rfl⟩
      exact ⟨wires, .mk length hspell, rfl⟩

theorem fields_spell_of_denote :
    ∀ {bytes : List UInt8} {fields : List (String × Value)} {trusted : List Trusted},
      FieldsDenote bytes fields trusted →
        ∃ wires, FieldsSpell bytes wires ∧ fields = Wire.decodedFields wires
  | _, _, _, .nil => ⟨[], .nil, by rw [Wire.decodedFields]⟩
  | _, _, _, .cons nulFree valueDenotes restDenote => by
      rcases value_spells_of_denotes valueDenotes with ⟨w, hvalue, rfl⟩
      rcases fields_spell_of_denote restDenote with ⟨wires, hrest, rfl⟩
      exact ⟨(_, w) :: wires, .cons nulFree hvalue hrest, by rw [Wire.decodedFields]⟩

theorem value_spells_of_denotes :
    ∀ {type : ElementType} {bytes : List UInt8} {v : Value} {trusted : List Trusted},
      ValueDenotes type bytes v trusted → ∃ w, ValueSpells type bytes w ∧ v = w.decoded
  | _, _, _, _, .scalar denotes => ⟨_, .scalar denotes, by rw [Wire.decoded]⟩
  | _, _, _, _, .document denotes => by
      rcases spells_of_denotes denotes with ⟨fields, hspells, rfl⟩
      exact ⟨_, .document hspells, by rw [Wire.decoded]⟩
  | _, _, _, _, .array denotes => by
      rcases spells_of_denotes denotes with ⟨items, hspells, rfl⟩
      exact ⟨_, .array hspells, by rw [Wire.decoded]⟩
  | _, _, _, _, .codeWithScope length sourceDenotes scopeDenotes => by
      rcases spells_of_denotes scopeDenotes with ⟨fields, hspells, rfl⟩
      exact ⟨_, .codeWithScope length sourceDenotes hspells, by rw [Wire.decoded]⟩

end

namespace Document

/-- What is read is what the reader makes of a tree that the bytes spell, and of an array in
    a tree it makes one with all its items exactly if they have different names. -/
theorem read_arrays (options : CodecOptions) (source : Source) (d : Document) (n : Nat) :
    (read options source = .ok (d, n) ↔
      ∃ wire rest fields, source.pending = wire ++ rest ∧ wire.length = n ∧
        n ≤ options.maxMessageSize ∧ DocumentSpells wire fields ∧
        d = .ofList (Wire.decodedFields fields)) ∧
    ∀ items : List (String × Wire),
      (Wire.array items).decoded = .array (items.map fun item => item.2.decoded) ↔
        (items.map Prod.fst).Nodup := by
  refine ⟨?_, Wire.array_decoded_iff⟩
  rw [read_eq_ok]
  constructor
  · rintro ⟨wire, rest, trusted, hsource, hlength, hlimit, hdenotes⟩
    rcases spells_of_denotes hdenotes with ⟨fields, hspells, hd⟩
    exact ⟨wire, rest, fields, hsource, hlength, hlimit, hspells, hd⟩
  · rintro ⟨wire, rest, fields, hsource, hlength, hlimit, hspells, rfl⟩
    rcases denotes_of_spells hspells with ⟨trusted, hdenotes⟩
    exact ⟨wire, rest, trusted, hsource, hlength, hlimit, hdenotes⟩

end Document

namespace Repeated

/-- An array of two items under one name. -/
def items : List (String × Wire) :=
  [("0", .scalar (.int32 1)), ("0", .scalar (.int32 2))]

/-- The bytes of a document that has the array. -/
def bytes : List UInt8 :=
  [27, 0, 0, 0, 4, 97, 0, 19, 0, 0, 0, 16, 48, 0, 1, 0, 0, 0, 16, 48, 0, 2, 0, 0, 0, 0, 0]

theorem bytes_spelled : DocumentSpells bytes [("a", .array items)] := by
  have hfirst : ValueSpells .int32 [1, 0, 0, 0] (.scalar (.int32 1)) :=
    .scalar (.int32 rfl)
  have hsecond : ValueSpells .int32 [2, 0, 0, 0] (.scalar (.int32 2)) :=
    .scalar (.int32 rfl)
  have hname : NulFree "0" := by
    decide
  have hkey : NulFree "a" := by
    decide
  have hitems : FieldsSpell [16, 48, 0, 1, 0, 0, 0, 16, 48, 0, 2, 0, 0, 0] items :=
    .cons hname hfirst (.cons hname hsecond .nil)
  have harray : ValueSpells .array [19, 0, 0, 0, 16, 48, 0, 1, 0, 0, 0, 16, 48, 0, 2, 0, 0, 0, 0]
      (.array items) :=
    .array (@DocumentSpells.mk [19, 0, 0, 0] _ _ ⟨rfl, rfl⟩ hitems)
  have hfield : FieldsSpell [4, 97, 0, 19, 0, 0, 0, 16, 48, 0, 1, 0, 0, 0, 16, 48, 0, 2, 0, 0, 0, 0]
      [("a", .array items)] :=
    .cons hkey harray .nil
  exact @DocumentSpells.mk [27, 0, 0, 0] _ _ ⟨rfl, rfl⟩ hfield

/-- The bytes are well formed, and of the two items one is read. -/
theorem first_item_lost :
    DocumentSpells bytes [("a", .array items)] ∧
      Document.decode bytes {} = .ok (⟨[("a", .array [.int32 2])]⟩, 27) := by
  exact ⟨bytes_spelled, Document.eq_ok_of_equals (by decide) (by decide +kernel)⟩

end Repeated

end DocumentMapper
