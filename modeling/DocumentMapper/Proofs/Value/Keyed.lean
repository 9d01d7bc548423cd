import DocumentMapper.Proofs.Value.Induction

/-!
# Documents with their names

A document is a list of fields, and most of what is computed from it asks no more. But the
documents that programs hold are built by inserting, and so a name stands once in each of
them and in every document inside. `KeyedDocument` carries that along: whoever takes one
need not ask for it, and whoever makes one shows it once.

## Main definitions

* `KeyedDocument`, `KeyedValue`: Documents and values with different names at every depth.
* `KeyedDocument.filter`: The fields under some names.
-/

namespace DocumentMapper

/-- A document in which a name stands once, and so it does in every document inside. -/
structure KeyedDocument extends Document where
  distinct : toDocument.Distinct

/-- A value in whose documents a name stands once. -/
structure KeyedValue where
  toValue : Value
  distinct : toValue.Distinct

instance : Coe KeyedDocument Document :=
  ⟨KeyedDocument.toDocument⟩

instance : Coe KeyedValue Value :=
  ⟨KeyedValue.toValue⟩

namespace KeyedDocument

theorem nodup_keys (d : KeyedDocument) : d.keys.Nodup :=
  (Document.throughout_iff.mp d.distinct).1

/-- The value of a field is keyed as its document is. -/
theorem distinct_of_mem (d : KeyedDocument) {field : String × Value} (h : field ∈ d.fields) :
    field.2.Distinct :=
  (Document.throughout_iff.mp d.distinct).2 field h

/-- The document without fields. -/
def empty : KeyedDocument :=
  ⟨.empty, by decide⟩

/-- The fields under some names, in their order. -/
def filter (p : String → Bool) (d : KeyedDocument) : KeyedDocument where
  fields := d.fields.filter fun field => p field.1
  distinct := by
    refine Document.throughout_iff.mpr ⟨?_, fun field hfield => ?_⟩
    · exact d.nodup_keys.sublist (List.Sublist.map _ List.filter_sublist)
    · exact d.distinct_of_mem (List.mem_of_mem_filter hfield)

end KeyedDocument

end DocumentMapper
