import DocumentMapper.Proofs.Value.Canonical
import DocumentMapper.Proofs.Wire.Emission
import DocumentMapper.Proofs.Wire.Framing

/-!
# What a sink receives

The lengths in what is written are computed from a value, before its bytes are there.
So here the bytes are described along the value: `Value.WrittenAs`, `Document.WrittenAs`
and `FieldsWrittenAs` say how a value is laid out, with a length only where it is the
number of the bytes it covers. An array is laid out as the document whose names are the
decimal places of its items. General bytes have two lengths, and which bytes are general
is what the value says: a code that users chose does not make them so.

Sizes are computed anew at every level, before the bytes of the level are written. So the
lengths of a level need the sizes of all levels inside, and those are what the lemmas on
`encodedSize` give.

Bytes laid out in this way are framed by themselves, in the sense of `DocumentFrame`,
as long as no binary has the code of general bytes without being general.

## Main definitions

* `TextWrittenAs`, `Value.WrittenAs`, `Document.WrittenAs`, `FieldsWrittenAs`: The layout.

## Theorems

* `written_scalar`, `written_fields`: What is written for scalars and for fields.
* `written_cases`: What is written at every depth.
* `documentFrame_of_writtenAs`: The layout of a document is a frame.
* `writeTo_size_and_frame`: Sizes and layouts of what a sink receives.
-/

namespace DocumentMapper

/-- The bytes of a text: a length, the bytes of the text, and a zero byte. -/
inductive TextWrittenAs (s : String) : List UInt8 → Prop where
  | mk {lead : List UInt8} (length : Announces lead (Utf8.encode s ++ [0]).length) :
      TextWrittenAs s (lead ++ (Utf8.encode s ++ [0]))

mutual

/-- The bytes of a document: a length that covers all of them, its fields, and a zero
    byte. -/
inductive Document.WrittenAs : Document → List UInt8 → Prop where
  | mk {fields : List (String × Value)} {lead body : List UInt8}
      (length : Announces lead (lead ++ (body ++ [0])).length)
      (fieldsWritten : FieldsWrittenAs fields body) :
      Document.WrittenAs ⟨fields⟩ (lead ++ (body ++ [0]))

/-- The bytes of fields: for each the tag of its value, its name with a zero byte, and the
    value. -/
inductive FieldsWrittenAs : List (String × Value) → List UInt8 → Prop where
  | nil : FieldsWrittenAs [] []
  | cons {name : String} {v : Value} {fields : List (String × Value)} {value rest : List UInt8}
      (nulFree : NulFree name) (valueWritten : Value.WrittenAs v value)
      (restWritten : FieldsWrittenAs fields rest) :
      FieldsWrittenAs ((name, v) :: fields)
        (v.elementType.tag.toUInt8 :: ((Utf8.encode name ++ [0]) ++ (value ++ rest)))

/-- The bytes of a value, without its tag and name. -/
inductive Value.WrittenAs : Value → List UInt8 → Prop where
  | fixed {v : Value} {bytes : List UInt8} (width : v.elementType.width? = some bytes.length) :
      Value.WrittenAs v bytes
  | string {s : String} {bytes : List UInt8} (text : TextWrittenAs s bytes) :
      Value.WrittenAs (.string s) bytes
  | code {source : String} {bytes : List UInt8} (text : TextWrittenAs source bytes) :
      Value.WrittenAs (.code source) bytes
  | pattern {p : Pattern} (source_nulFree : NulFree p.source)
      (options_nulFree : NulFree p.options) :
      Value.WrittenAs (.pattern p)
        ((Utf8.encode p.source ++ [0]) ++ (Utf8.encode p.options ++ [0]))
  | document {d : Document} {bytes : List UInt8} (written : Document.WrittenAs d bytes) :
      Value.WrittenAs (.document d) bytes
  /-- The names of the items are their places. -/
  | array {items : List Value} {bytes : List UInt8}
      (written : Document.WrittenAs (Document.ofItems items) bytes) :
      Value.WrittenAs (.array items) bytes
  /-- The length covers itself, the code and its scope. -/
  | codeWithScope {source : String} {scope : Document} {lead sourceBytes scopeBytes : List UInt8}
      (length : Announces lead (lead ++ (sourceBytes ++ scopeBytes)).length)
      (sourceWritten : TextWrittenAs source sourceBytes)
      (scopeWritten : Document.WrittenAs scope scopeBytes) :
      Value.WrittenAs (.codeWithScope source scope) (lead ++ (sourceBytes ++ scopeBytes))
  | uuid {u : Uuid} {lead : List UInt8} (length : Announces lead u.storedBytes.length) :
      Value.WrittenAs (.uuid u) (lead ++ ([BinarySubtype.uuidOld.code] ++ u.storedBytes))
  | binary {b : Binary} {lead : List UInt8} (special : b.subtype ≠ .general)
      (length : Announces lead b.bytes.length) :
      Value.WrittenAs (.binary b) (lead ++ ([b.subtype.code] ++ b.bytes))
  /-- The outer length covers the inner one and the bytes that this one covers. -/
  | generalBinary {payload outer inner : List UInt8}
      (outer_length : Announces outer (inner ++ payload).length)
      (inner_length : Announces inner payload.length) :
      Value.WrittenAs (.binary ⟨.general, payload⟩)
        (outer ++ ([BinarySubtype.general.code] ++ (inner ++ payload)))

end

/-! ### Scalars -/

/-- A text is written with the length of its bytes and the zero byte. -/
theorem written_text {s : String} {bytes : List UInt8} (h : Emit.text s = .ofBytes bytes) :
    TextWrittenAs s bytes := by
  rcases Emit.text_eq_ofBytes.mp h with ⟨hle, rfl⟩
  have hlength : (Utf8.encode s ++ [0]).length = s.utf8ByteSize + 1 := by
    rw [List.length_append, Utf8.length_encode, List.length_singleton]
  refine .mk ?_
  rw [hlength]
  exact announces_encode hle

/-- General bytes are written with two lengths, all others with one. -/
theorem written_binary {b : Binary} {bytes : List UInt8} (h : Emit.binary b = .ofBytes bytes) :
    (Value.binary b).WrittenAs bytes := by
  rcases b with ⟨subtype, payload⟩
  have hbytes := (Emit.binary_eq_ofBytes.mp h).2
  by_cases hgeneral : subtype = .general
  · subst hgeneral
    rw [if_pos rfl] at hbytes
    rcases hbytes with ⟨hle, rfl⟩
    -- The outer length counts the inner one as well.
    have hinner : (LittleEndian.encode 4 payload.length ++ payload).length =
        payload.length + 4 := by
      rw [List.length_append, LittleEndian.length_encode, Nat.add_comm]
    refine .generalBinary ?_ (announces_encode (Nat.le_of_add_right_le hle))
    rw [hinner]
    exact announces_encode hle
  · rw [if_neg hgeneral] at hbytes
    rcases hbytes with ⟨hle, rfl⟩
    exact .binary hgeneral (announces_encode hle)

/-- An identifier is written as a binary of sixteen bytes. -/
theorem written_uuid {u : Uuid} {bytes : List UInt8} (h : Emit.uuid u = .ofBytes bytes) :
    (Value.uuid u).WrittenAs bytes := by
  rw [Emit.uuid_eq_ofBytes.mp h]
  refine .uuid ?_
  rw [u.length_storedBytes]
  exact announces_encode (by decide)

theorem written_scalar {v : Value} (hv : v.isScalar = true) {bytes : List UInt8}
    (h : v.emit = .ofBytes bytes) : v.WrittenAs bytes := by
  have hsize := length_of_scalar hv h
  cases v with
  | document d => cases hv
  | array items => cases hv
  | codeWithScope source scope => cases hv
  | string s => exact .string (written_text h)
  | code source => exact .code (written_text h)
  | binary b => exact written_binary h
  | uuid u => exact written_uuid h
  | pattern p =>
      rcases pattern_eq_ofBytes.mp h with ⟨⟨hsource, hoptions⟩, rfl⟩
      exact .pattern hsource hoptions
  -- The other forms have a fixed width, which is the size computed for them.
  | objectId id => exact .fixed (congrArg some hsize.symm)
  | boolean b => exact .fixed (congrArg some hsize.symm)
  | double d => exact .fixed (congrArg some hsize.symm)
  | instant t => exact .fixed (congrArg some hsize.symm)
  | int32 n => exact .fixed (congrArg some hsize.symm)
  | int64 n => exact .fixed (congrArg some hsize.symm)
  | null => exact .fixed (congrArg some hsize.symm)
  | minKey => exact .fixed (congrArg some hsize.symm)
  | maxKey => exact .fixed (congrArg some hsize.symm)

/-! ### Documents -/

/-- Fields are laid out one after another. -/
theorem written_fields {fields : List (String × Value)}
    (hfields : ∀ field ∈ fields, ∀ bytes, field.2.emit = .ofBytes bytes →
      field.2.WrittenAs bytes) :
    ∀ bytes, emitFields fields = .ofBytes bytes → FieldsWrittenAs fields bytes := by
  induction fields with
  | nil =>
      intro bytes h
      rw [← Emission.ofBytes_inj.mp h]
      exact .nil
  | cons field rest ih =>
      intro bytes h
      rcases emitFields_cons_eq_ofBytes.mp h with ⟨hname, xs, ys, hxs, hys, rfl⟩
      have hvalue := hfields field List.mem_cons_self xs hxs
      have hrest := ih (fun f hf => hfields f (List.mem_cons_of_mem field hf)) ys hys
      exact .cons hname hvalue hrest

theorem written_cases :
    Cases (fun v => ∀ bytes, v.emit = .ofBytes bytes → v.WrittenAs bytes)
      (fun d => ∀ bytes, d.emit = .ofBytes bytes → d.WrittenAs bytes) where
  scalar v hv _ h := written_scalar hv h
  document d ih bytes h := .document (ih bytes h)
  array items ih bytes h := by
    rw [emit_array] at h
    exact .array (ih bytes h)
  codeWithScope source scope ih bytes h := by
    -- The length is the size of the value, and this is the number of bytes emitted.
    have hsize := Value.length_of_emit h
    rcases codeWithScope_eq_ofBytes.mp h with ⟨hle, xs, ys, hxs, hys, rfl⟩
    refine .codeWithScope ?_ (written_text hxs) (ih ys hys)
    rw [hsize]
    exact announces_encode hle
  -- The length was computed before the fields were written, and it is theirs.
  fields fields ih bytes h := by
    have hsize := Document.length_of_emit h
    rcases document_emit_eq_ofBytes.mp h with ⟨hle, body, hbody, rfl⟩
    refine .mk ?_ (written_fields ih body hbody)
    rw [hsize]
    exact announces_encode hle

/-! ### Layouts as frames -/

theorem textFrame_of_writtenAs {s : String} {bytes : List UInt8} (h : TextWrittenAs s bytes) :
    TextFrame bytes := by
  rcases h with ⟨length⟩
  exact .mk length

mutual

/-- The layout of a document is a frame if its binaries look like what they are. -/
theorem documentFrame_of_writtenAs : ∀ {d : Document} {bytes : List UInt8},
    d.WrittenAs bytes → d.Unambiguous → DocumentFrame bytes
  | _, _, .mk length fieldsWritten, h =>
      .mk length (fieldsFrame_of_writtenAs fieldsWritten (Document.throughout_iff.mp h).2)

/-- The same for fields. -/
theorem fieldsFrame_of_writtenAs : ∀ {fields : List (String × Value)} {bytes : List UInt8},
    FieldsWrittenAs fields bytes → (∀ field ∈ fields, field.2.Unambiguous) → FieldsFrame bytes
  | _, _, .nil, _ => .nil
  | _, _, .cons nulFree valueWritten restWritten, h =>
      .cons nulFree (valueFrame_of_writtenAs valueWritten (List.forall_mem_cons.mp h).1)
        (fieldsFrame_of_writtenAs restWritten (List.forall_mem_cons.mp h).2)

/-- The same for a value. -/
theorem valueFrame_of_writtenAs : ∀ {v : Value} {bytes : List UInt8},
    v.WrittenAs bytes → v.Unambiguous → ValueFrame v.elementType bytes
  | _, _, .fixed width, _ => .fixed width
  | _, _, .string text, _ => .text (.inl rfl) (textFrame_of_writtenAs text)
  | _, _, .code text, _ => .text (.inr rfl) (textFrame_of_writtenAs text)
  | _, _, .pattern source options, _ => .pattern source options
  | _, _, .document written, h => .nested (.inl rfl) (documentFrame_of_writtenAs written h)
  | _, _, .array written, h =>
      .nested (.inr rfl) (documentFrame_of_writtenAs written ((throughout_ofItems _ trivial).mpr h))
  | _, _, .codeWithScope length sourceWritten scopeWritten, h =>
      .codeWithScope length (textFrame_of_writtenAs sourceWritten)
        (documentFrame_of_writtenAs scopeWritten h)
  | _, _, .uuid length, _ => .binary (by decide) length
  -- A code of general bytes would announce a second length.
  | _, _, .binary special length, h => .binary (Binary.code_ne_general h special) length
  | _, _, .generalBinary outer_length inner_length, _ => .generalBinary outer_length inner_length

end

/-! ### What a sink receives -/

/-- Writing succeeds with an answer exactly if the emission has bytes, and these are
    appended to the sink. -/
theorem Emission.writeTo_eq_ok {α : Type} {answer a : α} {sink sink' : List UInt8} {e : Emission} :
    e.writeTo answer sink = (.ok a, sink') ↔
      a = answer ∧ ∃ bytes, e = .ofBytes bytes ∧ sink' = sink ++ bytes := by
  rcases e with ⟨written, failure⟩
  unfold writeTo
  cases failure with
  | some failure =>
      constructor
      · intro h
        cases (Prod.mk.inj h).1
      · rintro ⟨_, bytes, h, _⟩
        cases h
  | none =>
      constructor
      · intro h
        rcases Prod.mk.inj h with ⟨hanswer, hsink⟩
        exact ⟨(Except.ok.inj hanswer).symm, written, rfl, hsink.symm⟩
      · rintro ⟨rfl, bytes, h, rfl⟩
        cases h
        rfl

/-- A document that is written is not above the limit. -/
theorem Document.emit_of_write {options : CodecOptions} {d : Document} {bytes : List UInt8}
    (h : d.write options = .ofBytes bytes) : d.emit = .ofBytes bytes := by
  unfold write at h
  by_cases hlimit : options.maxMessageSize < d.encodedSize
  · rw [if_pos hlimit] at h
    exact absurd h (Emission.fail_ne_ofBytes _ _)
  · rw [if_neg hlimit] at h
    exact h

/-- A value that is written appends exactly as many bytes as computed, and so does a
    document, whose size is the answer. All lengths in these bytes are the numbers of
    bytes they cover, by the layout of the value; and as long as its binaries look like
    what they are, the bytes alone say so. -/
theorem writeTo_size_and_frame :
    (∀ (v : Value) (sink sink' : List UInt8), v.writeTo sink = (.ok (), sink') →
      ∃ bytes, sink' = sink ++ bytes ∧ bytes.length = v.encodedSize ∧ v.WrittenAs bytes ∧
        (v.Unambiguous → ValueFrame v.elementType bytes)) ∧
    (∀ (options : CodecOptions) (d : Document) (sink sink' : List UInt8) (size : Nat),
      d.writeTo options sink = (.ok size, sink') →
        size = d.encodedSize ∧ ∃ bytes, sink' = sink ++ bytes ∧ bytes.length = size ∧
          d.WrittenAs bytes ∧ (d.Unambiguous → DocumentFrame bytes)) := by
  constructor
  · intro v sink sink' h
    rcases Emission.writeTo_eq_ok.mp h with ⟨_, bytes, hemit, hsink⟩
    have hwritten := written_cases.value v bytes hemit
    exact ⟨bytes, hsink, Value.length_of_emit hemit, hwritten, valueFrame_of_writtenAs hwritten⟩
  · intro options d sink sink' size h
    rcases Emission.writeTo_eq_ok.mp h with ⟨hsize, bytes, hwrite, hsink⟩
    have hemit := Document.emit_of_write hwrite
    have hwritten := written_cases.all d bytes hemit
    refine ⟨hsize, bytes, hsink, ?_, hwritten, documentFrame_of_writtenAs hwritten⟩
    rw [hsize]
    exact Document.length_of_emit hemit

/-- Bytes under a code of users that is that of general bytes, and eleven items, the last of
    them under a name of two digits, together with general bytes and code with a scope. All
    are written behind a byte that is there already. -/
theorem eleven_items_framed :
    let v : Value := .binary ⟨.userDefined 0, [1, 2]⟩
    let d : Document := ⟨[("a", .array (List.replicate 11 .null)),
      ("b", .binary ⟨.general, [1, 2]⟩), ("c", .codeWithScope "x" ⟨[]⟩)]⟩
    ∃ sink : List UInt8,
      v.writeTo [7] = (.ok (), [7] ++ [2, 0, 0, 0, 0, 1, 2]) ∧
      (∃ bytes, [7] ++ [2, 0, 0, 0, 0, 1, 2] = [7] ++ bytes ∧ bytes.length = v.encodedSize ∧
        v.WrittenAs bytes ∧ (v.Unambiguous → ValueFrame v.elementType bytes)) ∧
      d.writeTo ⟨128, 0⟩ [7] = (.ok 79, sink) ∧
      79 = d.encodedSize ∧ ∃ bytes, sink = [7] ++ bytes ∧ bytes.length = 79 ∧
        d.WrittenAs bytes ∧ (d.Unambiguous → DocumentFrame bytes) := by
  intro v d
  have hvalue : v.writeTo [7] = (.ok (), [7] ++ [2, 0, 0, 0, 0, 1, 2]) := by rfl
  have hdocument : ∃ sink, d.writeTo ⟨128, 0⟩ [7] = (.ok 79, sink) := ⟨_, by with_unfolding_all rfl⟩
  rcases hdocument with ⟨sink, hsink⟩
  exact ⟨sink, hvalue, writeTo_size_and_frame.1 v _ _ hvalue, hsink,
    writeTo_size_and_frame.2 _ d _ _ _ hsink⟩

end DocumentMapper
