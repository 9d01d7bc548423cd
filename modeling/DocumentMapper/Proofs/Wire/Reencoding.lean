import DocumentMapper.Proofs.Wire.Acceptance
import DocumentMapper.Proofs.Wire.RoundTrip

/-!
# What was read can be written

Different bytes are read as the same document: truth may be any byte, a name may stand
twice, the items of a list may have any names. But whatever the bytes were, the document
that was read is one the writer accepts, and one that is read back from what the writer
makes of it. So writing what was read gives bytes that do not change any more.

The writer refuses a name or a pattern with a zero byte inside, and these were read up to
their first zero byte. It refuses a binary that would be read as an identifier, and such
bytes were read as an identifier. It writes a name as often as it stands in the document,
where a reader keeps one; but reading inserts, so a name stands once in what was read. And
it writes a subtype as its code, which a reader takes for the subtype that has the code;
but that is the one that was read. All of this is said of scalars and of the names of a
document, at every depth, and so it needs one induction over what bytes stand for
(`DenotedCases`).

## Main definitions

* `DenotedCases`: The cases of an induction over what bytes stand for.

## Theorems

* `DenotedCases.document`: A property at every depth of what bytes stand for.
* `throughout_ofBinary`: What bytes with a subtype are read as.
* `denoted_writable`, `denoted_distinct`, `denoted_canonical`: What bytes stand for can be
  written, is keyed, and has the subtypes that its bytes stand for.
* `exists_keyed_of_read`: The same of what was read.
* `reencode_of_read`: Writing what was read.
-/

namespace DocumentMapper

/-! ### Properties at every depth -/

section Throughout

variable {P : Value → Prop} {K : List String → Prop}

/-- The items of an array have a property throughout if the array has it. -/
theorem throughout_array {items : List Value} (h : ∀ v ∈ items, v.Throughout P K) :
    (Value.array items).Throughout P K := by
  rw [Value.Throughout, ← fieldsThroughout_itemFields items 0, fieldsThroughout_iff]
  exact fun field hfield => h field.2 (mem_itemFields hfield).1

/-- What has to be shown of scalars and of the names of a document, for all that bytes can
    stand for. -/
structure DenotedCases (P : Value → Prop) (K : List String → Prop) : Prop where
  scalar : ∀ {type bytes v trusted}, ScalarDenotes type bytes v trusted → v.Throughout P K
  names : ∀ {fields : List (String × Value)}, (∀ field ∈ fields, NulFree field.1) →
    K (Document.ofList fields).keys

namespace DenotedCases

mutual

theorem document (h : DenotedCases P K) : ∀ {bytes : List UInt8} {d : Document}
    {trusted : List Trusted}, DocumentDenotes bytes d trusted → d.Throughout P K
  | _, _, _, .mk _ denotes => by
      have hfields := h.fields denotes
      refine Document.throughout_iff.mpr ⟨h.names fun field hfield => (hfields field hfield).1, ?_⟩
      exact fun field hfield => (hfields field (Fields.mem_of_mem_ofList hfield)).2

theorem fields (h : DenotedCases P K) :
    ∀ {bytes : List UInt8} {fields : List (String × Value)} {trusted : List Trusted},
      FieldsDenote bytes fields trusted →
        ∀ field ∈ fields, NulFree field.1 ∧ field.2.Throughout P K
  | _, _, _, .nil => List.forall_mem_nil _
  | _, _, _, .cons nulFree valueDenotes restDenote =>
      List.forall_mem_cons.mpr ⟨⟨nulFree, h.value valueDenotes⟩, h.fields restDenote⟩

theorem value (h : DenotedCases P K) :
    ∀ {type : ElementType} {bytes : List UInt8} {v : Value} {trusted : List Trusted},
      ValueDenotes type bytes v trusted → v.Throughout P K
  | _, _, _, _, .scalar denotes => h.scalar denotes
  | _, _, _, _, .document denotes => h.document denotes
  | _, _, _, _, .array denotes => by
      refine throughout_array (List.forall_mem_map.mpr fun field hfield => ?_)
      exact (Document.throughout_iff.mp (h.document denotes)).2 field hfield
  | _, _, _, _, .codeWithScope _ _ scopeDenotes => h.document scopeDenotes

end

end DenotedCases

end Throughout

/-- Bytes with a subtype are read as an identifier, or as a binary that has not the form of
    one. -/
theorem throughout_ofBinary {P : Value → Prop} {K : List String → Prop} (b : Binary)
    (huuid : ∀ u, P (.uuid u)) (hbinary : b.isStoredUuid = false → P (.binary b)) :
    (Value.ofBinary b).Throughout P K := by
  rcases Value.ofBinary_cases b with ⟨u, hvalue⟩ | ⟨hstored, hvalue⟩
  · rw [hvalue]
    exact huuid u
  · rw [hvalue]
    exact hbinary hstored

theorem denoted_writable :
    DenotedCases Value.ScalarWritable (fun names => ∀ name ∈ names, NulFree name) where
  scalar h := by
    cases h with
    | pattern source options => exact ⟨source, options⟩
    -- Data of a subtype for identifiers become one if they are as long, and stay data otherwise.
    | binary _ _ => exact throughout_ofBinary _ (fun _ => trivial) id
    | generalBinary _ _ => exact rfl
    | _ => trivial
  names h := by
    rw [Document.keys, List.forall_mem_map]
    exact fun field hfield => h field (Fields.mem_of_mem_ofList hfield)

theorem denoted_distinct : DenotedCases (fun _ => True) List.Nodup where
  scalar h := by
    cases h with
    | binary _ _ => exact throughout_ofBinary _ (fun _ => trivial) fun _ => trivial
    | _ => trivial
  names _ := Fields.nodup_ofList _

theorem denoted_canonical :
    DenotedCases (Value.OfBinary fun b => b.subtype.IsCanonical) (fun _ => True) where
  scalar h := by
    cases h with
    -- A subtype is read off its code.
    | binary _ _ =>
        exact throughout_ofBinary _ (fun _ => trivial) fun _ =>
          BinarySubtype.isCanonical_ofCode _
    | _ => trivial
  names _ := trivial

namespace Document

/-- A writable document within 32 bits is refused only for its size. -/
theorem encode_error_of_writable {d : Document} {options : CodecOptions} {e : CodecError}
    (hmax : options.maxMessageSize ≤ 2147483647) (hd : d.Writable)
    (h : d.encode options = .error e) :
    options.maxMessageSize < d.encodedSize ∧
      e = .messageTooLarge d.encodedSize options.maxMessageSize := by
  by_cases hlimit : options.maxMessageSize < d.encodedSize
  · unfold encode write at h
    rw [if_pos hlimit] at h
    exact ⟨hlimit, (Except.error.inj h).symm⟩
  · rcases (emit_iff_writable (by omega)).mpr hd with ⟨bytes, hemit⟩
    rw [encode_eq_ok.mpr ⟨Nat.not_lt.mp hlimit, hemit⟩] at h
    cases h

/-- What a reader hands out has different names at every depth and the subtypes that its
    bytes stand for, and nothing in it keeps it from being written. -/
theorem exists_keyed_of_read {options : CodecOptions} {source : Source} {d : Document} {n : Nat}
    (h : read options source = .ok (d, n)) :
    ∃ k : KeyedDocument, k.toDocument = d ∧ k.IsCanonical ∧ k.Writable := by
  rcases denotes_of_read h with ⟨wire, rest, trusted, _, _, _, hd⟩
  exact ⟨⟨d, denoted_distinct.document hd⟩, rfl, denoted_canonical.document hd,
    denoted_writable.document hd⟩

/-- Writing a document that was read fails only if it is too large then. If it does not,
    the bytes are read as the same document, and writing this one gives them again. -/
theorem reencode_of_read {reading writing : CodecOptions} {source : Source} {d : Document} {n : Nat}
    (hmax : writing.maxMessageSize ≤ 2147483647) (h : read reading source = .ok (d, n)) :
    (∀ e, d.encode writing = .error e → writing.maxMessageSize < d.encodedSize ∧
      e = .messageTooLarge d.encodedSize writing.maxMessageSize) ∧
    ∀ bytes, d.encode writing = .ok bytes →
      decode bytes writing = .ok (d, bytes.length) ∧
        (do let (d', _) ← decode bytes writing; d'.encode writing) = .ok bytes := by
  rcases exists_keyed_of_read h with ⟨k, rfl, hcanonical, hwritable⟩
  constructor
  · intro e herror
    exact encode_error_of_writable hmax hwritable herror
  · intro bytes hbytes
    have hdecode := KeyedDocument.decode_of_encode hbytes hcanonical
    refine ⟨hdecode, ?_⟩
    rw [hdecode]
    exact hbytes

/-- A name that stands twice, a truth of seven and a list whose item has a name of its own
    are read, written and read again. -/
theorem repeated_name_reencoded :
    let wire : List UInt8 :=
      [23, 0, 0, 0, 6, 97, 0, 8, 97, 0, 7, 4, 108, 0, 8, 0, 0, 0, 10, 120, 0, 0, 0]
    let d : Document := ⟨[("a", .boolean true), ("l", .array [.null])]⟩
    let bytes : List UInt8 := [20, 0, 0, 0, 8, 97, 0, 1, 4, 108, 0, 8, 0, 0, 0, 10, 48, 0, 0, 0]
    ({} : CodecOptions).maxMessageSize ≤ 2147483647 ∧ decode wire {} = .ok (d, 23) ∧
      d.encode {} = .ok bytes ∧ decode bytes {} = .ok (d, 20) ∧
        (do let (d', _) ← decode bytes {}; d'.encode {}) = .ok bytes := by
  intro wire d bytes
  have hmax : ({} : CodecOptions).maxMessageSize ≤ 2147483647 := by decide
  have hread : decode wire {} = .ok (d, 23) :=
    eq_ok_of_equals (by decide) (by decide +kernel)
  have hencode : d.encode {} = .ok bytes := by with_unfolding_all rfl
  exact ⟨hmax, hread, hencode, (reencode_of_read hmax hread).2 bytes hencode⟩

end Document

end DocumentMapper
