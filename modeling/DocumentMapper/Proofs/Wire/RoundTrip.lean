import DocumentMapper.Proofs.Value.Canonical
import DocumentMapper.Proofs.Value.Keyed
import DocumentMapper.Proofs.Wire.Delimiting

/-!
# Documents and back

What is written for a document stands for it, and so a reader reads it back, with any
limits on its buffer and for any deliveries. What has to be shown here is about the
writer only: every form is written as bytes that the grammar has for it, with lengths
that are those announced. The induction is over values and documents.

Two things keep this from holding of every list of fields. A name that occurs twice would
be read once, as reading inserts; a `KeyedDocument` has none. And bytes under a code that
users chose are read with the subtype that has the code for its own. So what is read is
the canonical form of the document, provided that the code does not call for a layout
that the bytes do not have (`Unambiguous`); and it is the document if that is canonical.

## Theorems

* `denotes_text`, `denotes_binary`, `denotes_uuid`: Texts, binaries and identifiers.
* `denotes_scalar`: The forms without parts.
* `denotes_fields`: Fields are written one after another.
* `denotes_cases`: What is written at every depth.
* `KeyedDocument.read_of_emit`: What the bytes of a document are read as.
* `KeyedDocument.decode_of_encode`: A document is decoded from what it was encoded to.
* `encode_iff_writable`: What can be written.
* `encode_iff_writable_and_reads_back`: What can be written, and that it is read back.
-/

namespace DocumentMapper

/-! ### Scalars -/

theorem denotes_text {s : String} {bytes : List UInt8} (h : Emit.text s = .ofBytes bytes) :
    TextDenotes bytes s [.textEnd 0] := by
  rcases Emit.text_eq_ofBytes.mp h with ⟨hle, rfl⟩
  have hlength : (Utf8.encode s ++ [0]).length = s.utf8ByteSize + 1 := by
    rw [List.length_append, Utf8.length_encode, List.length_singleton]
  refine .mk ?_
  rw [hlength]
  exact announces_encode hle

/-- A binary is read with the subtype that its byte stands for, since it has not the form
    of an identifier. -/
theorem denotes_binary {b : Binary} (hunambiguous : b.Unambiguous) {bytes : List UInt8}
    (h : Emit.binary b = .ofBytes bytes) :
    ∃ trusted, ScalarDenotes .binary bytes (.binary b.canonical) trusted := by
  rcases Emit.binary_eq_ofBytes.mp h with ⟨hstored, hbytes⟩
  by_cases hgeneral : b.subtype = .general
  · rcases b with ⟨_, payload⟩
    subst hgeneral
    rw [if_pos rfl] at hbytes
    rcases hbytes with ⟨hle, rfl⟩
    exact ⟨_, .generalBinary (announces_encode hle) (announces_encode (Nat.le_of_add_right_le hle))⟩
  · rw [if_neg hgeneral] at hbytes
    rcases hbytes with ⟨hle, rfl⟩
    -- What is written as an identifier would come back as one; emission refuses such data.
    rw [← Value.ofBinary_of_not_isStoredUuid (Binary.isStoredUuid_canonical hunambiguous hstored)]
    exact ⟨_, .binary (Binary.code_ne_general hunambiguous hgeneral) (announces_encode hle)⟩

theorem denotes_uuid {u : Uuid} {bytes : List UInt8} (h : Emit.uuid u = .ofBytes bytes) :
    ScalarDenotes .binary bytes (.uuid u) [] := by
  rw [Emit.uuid_eq_ofBytes.mp h, ← Value.ofBinary_storedBytes u]
  refine .binary (by decide) ?_
  rw [u.length_storedBytes]
  exact announces_encode (by decide)

theorem denotes_instant (t : Instant) :
    ScalarDenotes .instant (LittleEndian.int64 (Int64.ofInt t.millis)) (.instant t) [] := by
  refine .instant (LittleEndian.length_encode 8 _) ?_
  rw [LittleEndian.toInt64_int64]
  exact t.ofMillis?_toInt_ofInt

theorem denotes_scalar {v : Value} (hv : v.isScalar = true) (hunambiguous : v.Unambiguous)
    {bytes : List UInt8} (h : v.emit = .ofBytes bytes) :
    ∃ trusted, ScalarDenotes v.elementType bytes v.canonical trusted := by
  cases v with
  | document d => cases hv
  | array items => cases hv
  | codeWithScope source scope => cases hv
  | string s => exact ⟨_, .string (denotes_text h)⟩
  | code source => exact ⟨_, .code (denotes_text h)⟩
  | binary b => exact denotes_binary hunambiguous h
  | uuid u => exact ⟨_, denotes_uuid h⟩
  | pattern p =>
      rcases pattern_eq_ofBytes.mp h with ⟨⟨hsource, hoptions⟩, rfl⟩
      exact ⟨_, .pattern hsource hoptions⟩
  | objectId id =>
      rw [← Emission.ofBytes_inj.mp h]
      exact ⟨_, .objectId (vectorOfList?_toList id.bytes)⟩
  | boolean b =>
      rw [← Emission.ofBytes_inj.mp h]
      refine ⟨[], ?_⟩
      cases b with
      | false => exact .boolean 0
      | true => exact .boolean 1
  | double d =>
      rw [← Emission.ofBytes_inj.mp h]
      have hdouble := ScalarDenotes.double (LittleEndian.length_encode 8 d.bits.toNat)
      rw [LittleEndian.ofNat_decode_encode] at hdouble
      exact ⟨_, hdouble⟩
  | instant t =>
      rw [← Emission.ofBytes_inj.mp h]
      exact ⟨_, denotes_instant t⟩
  | int32 n =>
      rw [← Emission.ofBytes_inj.mp h]
      have hnumber := ScalarDenotes.int32 (LittleEndian.length_encode 4 n.toUInt32.toNat)
      exact ⟨_, LittleEndian.toInt32_int32 n ▸ hnumber⟩
  | int64 n =>
      rw [← Emission.ofBytes_inj.mp h]
      have hnumber := ScalarDenotes.int64 (LittleEndian.length_encode 8 n.toUInt64.toNat)
      exact ⟨_, LittleEndian.toInt64_int64 n ▸ hnumber⟩
  | null =>
      rw [← Emission.ofBytes_inj.mp h]
      exact ⟨_, .null⟩
  | minKey =>
      rw [← Emission.ofBytes_inj.mp h]
      exact ⟨_, .minKey⟩
  | maxKey =>
      rw [← Emission.ofBytes_inj.mp h]
      exact ⟨_, .maxKey⟩

/-! ### Documents -/

/-- The bytes of fields are one after another those of their names and values. -/
theorem denotes_fields {fields : List (String × Value)}
    (hfields : ∀ field ∈ fields, ∀ bytes, field.2.emit = .ofBytes bytes →
      ∃ trusted, ValueDenotes field.2.elementType bytes field.2.canonical trusted) :
    ∀ bytes, emitFields fields = .ofBytes bytes →
      ∃ trusted, FieldsDenote bytes (fieldsCanonical fields) trusted := by
  induction fields with
  | nil =>
      intro bytes h
      rw [← Emission.ofBytes_inj.mp h]
      exact ⟨_, .nil⟩
  | cons field rest ih =>
      intro bytes h
      rcases emitFields_cons_eq_ofBytes.mp h with ⟨hname, xs, ys, hxs, hys, rfl⟩
      rcases hfields field List.mem_cons_self xs hxs with ⟨first, hvalue⟩
      rcases ih (fun f hf => hfields f (List.mem_cons_of_mem field hf)) ys hys with ⟨more, hrest⟩
      exact ⟨_, .cons hname hvalue hrest⟩

theorem denotes_cases :
    Cases
      (fun v => v.Distinct → v.Unambiguous → ∀ bytes, v.emit = .ofBytes bytes →
        ∃ trusted, ValueDenotes v.elementType bytes v.canonical trusted)
      (fun d => d.Distinct → d.Unambiguous → ∀ bytes, d.emit = .ofBytes bytes →
        ∃ trusted, DocumentDenotes bytes d.canonical trusted) where
  scalar v hv _ hunambiguous bytes h := by
    rcases denotes_scalar hv hunambiguous h with ⟨trusted, hdenotes⟩
    exact ⟨trusted, .scalar hdenotes⟩
  document d ih hdistinct hunambiguous bytes h := by
    rcases ih hdistinct hunambiguous bytes h with ⟨trusted, hdenotes⟩
    exact ⟨trusted, .document hdenotes⟩
  array items ih hdistinct hunambiguous bytes h := by
    rw [emit_array] at h
    rcases ih ((distinct_ofItems items).mpr hdistinct)
      ((throughout_ofItems items trivial).mpr hunambiguous) bytes h with ⟨trusted, hdenotes⟩
    have harray := ValueDenotes.array hdenotes
    rw [values_canonical_ofItems] at harray
    exact ⟨trusted, harray⟩
  codeWithScope source scope ih hdistinct hunambiguous bytes h := by
    -- The length is the size of the value, and this is the number of bytes emitted.
    have hsize := Value.length_of_emit h
    rcases codeWithScope_eq_ofBytes.mp h with ⟨hle, xs, ys, hxs, hys, rfl⟩
    rcases ih hdistinct hunambiguous ys hys with ⟨more, hscope⟩
    refine ⟨_, .codeWithScope ?_ (denotes_text hxs) hscope⟩
    rw [hsize]
    exact announces_encode hle
  fields fields ih hdistinct hunambiguous bytes h := by
    have hsize := Document.length_of_emit h
    rcases Document.throughout_iff.mp hdistinct with ⟨hnodup, hvalues⟩
    have hbinaries := (Document.throughout_iff.mp hunambiguous).2
    rcases document_emit_eq_ofBytes.mp h with ⟨hle, body, hbody, rfl⟩
    rcases denotes_fields (fun field hfield => ih field hfield (hvalues field hfield)
      (hbinaries field hfield)) body hbody with ⟨trusted, hdenote⟩
    -- Names that differ are inserted behind each other.
    have hfields : Document.ofList (fieldsCanonical fields) = Document.canonical ⟨fields⟩ := by
      refine congrArg Document.mk (Fields.ofList_of_nodup ?_)
      rw [map_fst_fieldsCanonical]
      exact hnodup
    have hannounces : Announces (LittleEndian.encode 4 (Document.encodedSize ⟨fields⟩))
        (LittleEndian.encode 4 (Document.encodedSize ⟨fields⟩) ++ (body ++ [0])).length := by
      rw [hsize]
      exact announces_encode hle
    have hdocument := DocumentDenotes.mk hannounces hdenote
    rw [hfields] at hdocument
    exact ⟨trusted, hdocument⟩

namespace KeyedDocument

variable {options : CodecOptions}

/-- The bytes of a document are read back as the document with the subtypes that its bytes
    stand for, for every source of them, and the count of bytes is their number. -/
theorem read_of_emit {d : KeyedDocument} {bytes : List UInt8}
    (h : d.emit = .ofBytes bytes) (hunambiguous : d.Unambiguous)
    (hlimit : d.encodedSize ≤ options.maxMessageSize) (source : Source)
    (rest : List UInt8) (hsource : source.pending = bytes ++ rest) :
    Document.read options source = .ok (d.canonical, bytes.length) := by
  rcases denotes_cases.all d.toDocument d.distinct hunambiguous bytes h with ⟨trusted, hdenotes⟩
  rw [← Document.length_of_emit h] at hlimit
  exact Document.read_of_denotes hdenotes hlimit hsource

/-- What a canonical document was encoded to is decoded to the document. -/
theorem decode_of_encode {d : KeyedDocument} {bytes : List UInt8}
    (h : d.encode options = .ok bytes) (hcanonical : d.IsCanonical) :
    Document.decode bytes options = .ok (d.toDocument, bytes.length) := by
  rcases Document.encode_eq_ok.mp h with ⟨hle, hemit⟩
  have hread : Document.decode bytes options = .ok (d.canonical, bytes.length) :=
    read_of_emit hemit (Document.unambiguous_of_isCanonical hcanonical) hle _ []
      (List.append_nil bytes).symm
  rw [Document.canonical_of_isCanonical hcanonical] at hread
  exact hread

end KeyedDocument

namespace Document

/-- Under a limit of 32 bits, a document can be written exactly if it is within the limit
    and no name, pattern or binary inside it stands in the way. -/
theorem encode_iff_writable (d : Document) {options : CodecOptions}
    (hmax : options.maxMessageSize ≤ 2147483647) :
    (∃ bytes, d.encode options = .ok bytes) ↔
      d.encodedSize ≤ options.maxMessageSize ∧ d.Writable := by
  constructor
  · rintro ⟨bytes, h⟩
    rcases encode_eq_ok.mp h with ⟨hle, hemit⟩
    exact ⟨hle, (emit_iff_writable (by omega)).mp ⟨bytes, hemit⟩⟩
  · rintro ⟨hle, hwritable⟩
    rcases (emit_iff_writable (by omega)).mpr hwritable with ⟨bytes, hemit⟩
    exact ⟨bytes, encode_eq_ok.mpr ⟨hle, hemit⟩⟩

/-- A document can be written exactly if it is within the limit and nothing inside it stands
    in the way. If no code that users chose for a binary has a name, what was written is read
    back, however the bytes are delivered. -/
theorem encode_iff_writable_and_reads_back (d : KeyedDocument) (options : CodecOptions)
    (hmax : options.maxMessageSize ≤ 2147483647) :
    ((∃ bytes, d.encode options = .ok bytes) ↔
        d.encodedSize ≤ options.maxMessageSize ∧ d.Writable) ∧
      (d.IsCanonical → ∀ bytes, d.encode options = .ok bytes → ∀ schedule : Schedule,
        read options (Source.ofSchedule bytes schedule) = .ok (d.toDocument, bytes.length)) := by
  refine ⟨d.encode_iff_writable hmax, ?_⟩
  intro hcanonical bytes h schedule
  rcases encode_eq_ok.mp h with ⟨hle, hemit⟩
  have hread := KeyedDocument.read_of_emit hemit (unambiguous_of_isCanonical hcanonical) hle
    (Source.ofSchedule bytes schedule) [] (List.append_nil bytes).symm
  rw [canonical_of_isCanonical hcanonical] at hread
  exact hread

/-- A list of two texts under a name and bytes under a code of users, read with the smallest
    buffer: the second text is longer than the buffer and its first character has three
    bytes. -/
theorem nested_texts_read_back :
    let d : KeyedDocument :=
      ⟨⟨[("a", .array [.string "", .string "€uro"]), ("é", .null),
        ("b", .binary ⟨.userDefined 6, [1]⟩)]⟩, by decide⟩
    let options : CodecOptions := ⟨64, 0⟩
    let bytes : List UInt8 :=
      [48, 0, 0, 0, 4, 97, 0, 27, 0, 0, 0, 2, 48, 0, 1, 0, 0, 0, 0, 2, 49, 0, 7, 0, 0, 0, 226,
        130, 172, 117, 114, 111, 0, 0, 10, 195, 169, 0, 5, 98, 0, 1, 0, 0, 0, 6, 1, 0]
    options.maxMessageSize ≤ 2147483647 ∧ d.IsCanonical ∧ d.encode options = .ok bytes ∧
      ∀ schedule : Schedule,
        read options (Source.ofSchedule bytes schedule) = .ok (d.toDocument, bytes.length) := by
  intro d options bytes
  have hmax : options.maxMessageSize ≤ 2147483647 := by decide
  have hcanonical : d.IsCanonical := by decide
  have hencode : d.encode options = .ok bytes := by with_unfolding_all rfl
  exact ⟨hmax, hcanonical, hencode,
    (encode_iff_writable_and_reads_back d options hmax).2 hcanonical bytes hencode⟩

end Document

end DocumentMapper
