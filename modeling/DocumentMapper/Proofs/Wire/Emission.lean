import DocumentMapper.Proofs.Text.Utf8
import DocumentMapper.Proofs.Value.Induction
import DocumentMapper.Proofs.Wire.Scalars
import DocumentMapper.Wire.Writer

/-!
# What is written, and when

Writing succeeds with some bytes or fails on the way. Each part of the writer is
described by one equivalence, which says exactly when it emits given bytes without
failure; they are named after the part (`length_eq_ofBytes` and so on). Sizes,
acceptance and the way back are read off these equivalences, and the definitions of
the writer are not opened again.

The writer stops at four things: a length above 32 bits, a zero byte inside a name or
a pattern, a binary that would come back as an identifier, and a document above
the limit. The first cannot happen under a limit of 32 bits, since every length that
is written is at most the size of the whole. The other two are conditions on the
parts of a document (`Document.Writable`).

## Main definitions

* `NulFree`: A text without a zero byte.
* `Value.ScalarWritable`: What a scalar must not be.
* `Value.Writable`, `Document.Writable`: The condition at every depth.

## Theorems

* `append_eq_ofBytes`: Two emissions succeed together.
* `emit_array`: An array is written as the document of its items.
* `encodedSize_array`: It has the size of that document.
* `document_emit_eq_ofBytes`: The bytes of a document.
* `emitFields_cons_eq_ofBytes`: The bytes of a field before others.
* `length_of_emit`: A value takes as many bytes as computed.
* `emit_iff_writable`: Below 32 bits, what can be written is what is writable.
-/

namespace DocumentMapper

namespace Emission

@[simp] theorem ofBytes_inj {xs ys : List UInt8} : ofBytes xs = ofBytes ys ↔ xs = ys := by
  unfold ofBytes
  rw [Emission.mk.injEq]
  exact and_iff_left rfl

@[simp] theorem fail_ne_ofBytes (e : CodecError) (bytes : List UInt8) : fail e ≠ ofBytes bytes := by
  intro h
  cases h

/-- Two emissions succeed together exactly if both do, and their bytes follow one another. -/
theorem append_eq_ofBytes {first second : Emission} {bytes : List UInt8} :
    first ++ second = ofBytes bytes ↔
      ∃ xs ys, first = ofBytes xs ∧ second = ofBytes ys ∧ bytes = xs ++ ys := by
  rcases first with ⟨xs, failure⟩
  rcases second with ⟨ys, failure'⟩
  constructor
  · intro h
    cases failure with
    | some e => cases h
    | none =>
        cases h
        exact ⟨xs, ys, rfl, rfl, rfl⟩
  · rintro ⟨xs', ys', h1, h2, rfl⟩
    rw [h1, h2]
    rfl

theorem ofBytes_append {second : Emission} {xs bytes : List UInt8} :
    ofBytes xs ++ second = ofBytes bytes ↔ ∃ ys, second = ofBytes ys ∧ bytes = xs ++ ys := by
  rw [append_eq_ofBytes]
  constructor
  · rintro ⟨xs', ys, h1, h2, h⟩
    rw [← ofBytes_inj.mp h1] at h
    exact ⟨ys, h2, h⟩
  · rintro ⟨ys, h2, h⟩
    exact ⟨xs, ys, rfl, h2, h⟩

theorem append_ofBytes {first : Emission} {ys bytes : List UInt8} :
    first ++ ofBytes ys = ofBytes bytes ↔ ∃ xs, first = ofBytes xs ∧ bytes = xs ++ ys := by
  rw [append_eq_ofBytes]
  constructor
  · rintro ⟨xs, ys', h1, h2, h⟩
    rw [← ofBytes_inj.mp h2] at h
    exact ⟨xs, h1, h⟩
  · rintro ⟨xs, h1, h⟩
    exact ⟨xs, ys, h1, rfl, h⟩

end Emission

/-- A text without a zero byte. -/
def NulFree (s : String) : Prop :=
  0 ∉ Utf8.encode s

instance (s : String) : Decidable (NulFree s) :=
  inferInstanceAs (Decidable (0 ∉ Utf8.encode s))

namespace Emit

theorem length_eq_ofBytes {n : Nat} {bytes : List UInt8} :
    length n = .ofBytes bytes ↔ n ≤ 2147483647 ∧ bytes = LittleEndian.encode 4 n := by
  unfold length
  by_cases h : n ≤ 2147483647
  · rw [if_pos h, Emission.ofBytes_inj, eq_comm]
    exact (and_iff_right h).symm
  · rw [if_neg h]
    exact ⟨fun hf => absurd hf (Emission.fail_ne_ofBytes _ _), fun hf => absurd hf.1 h⟩

theorem key_eq_ofBytes {s : String} {bytes : List UInt8} :
    key s = .ofBytes bytes ↔ NulFree s ∧ bytes = Utf8.encode s ++ [0] := by
  unfold key
  by_cases h : 0 ∈ Utf8.encode s
  · rw [if_pos (List.contains_iff_mem.mpr h)]
    exact ⟨fun hf => absurd hf (Emission.fail_ne_ofBytes _ _), fun hf => absurd h hf.1⟩
  · rw [if_neg (fun hc => h (List.contains_iff_mem.mp hc)), Emission.ofBytes_inj, eq_comm]
    exact (and_iff_right h).symm

theorem text_eq_ofBytes {s : String} {bytes : List UInt8} :
    text s = .ofBytes bytes ↔ s.utf8ByteSize + 1 ≤ 2147483647 ∧
      bytes = LittleEndian.encode 4 (s.utf8ByteSize + 1) ++ (Utf8.encode s ++ [0]) := by
  unfold text
  rw [Emission.append_ofBytes]
  constructor
  · rintro ⟨xs, hlength, rfl⟩
    rcases length_eq_ofBytes.mp hlength with ⟨hle, rfl⟩
    exact ⟨hle, rfl⟩
  · rintro ⟨hle, rfl⟩
    exact ⟨_, length_eq_ofBytes.mpr ⟨hle, rfl⟩, rfl⟩

theorem binary_eq_ofBytes {b : Binary} {bytes : List UInt8} :
    binary b = .ofBytes bytes ↔ b.isStoredUuid = false ∧
      if b.subtype = .general then
        b.bytes.length + 4 ≤ 2147483647 ∧
          bytes = LittleEndian.encode 4 (b.bytes.length + 4) ++ ([b.subtype.code] ++
            (LittleEndian.encode 4 b.bytes.length ++ b.bytes))
      else
        b.bytes.length ≤ 2147483647 ∧
          bytes = LittleEndian.encode 4 b.bytes.length ++ ([b.subtype.code] ++ b.bytes) := by
  unfold binary
  cases hu : b.isStoredUuid with
  | true =>
      rw [if_pos rfl]
      exact ⟨fun hf => absurd hf (Emission.fail_ne_ofBytes _ _), fun hf => absurd hf.1 (by decide)⟩
  | false =>
      rw [if_neg (by decide), and_iff_right rfl]
      by_cases hg : b.subtype = .general
      · -- The inner length fits if the outer one does, which is larger by four.
        rw [if_pos hg, if_pos hg, Emission.append_ofBytes]
        constructor
        · rintro ⟨xs, h, rfl⟩
          rcases Emission.append_eq_ofBytes.mp h with ⟨ys, zs, hy, hz, rfl⟩
          rcases Emission.append_ofBytes.mp hy with ⟨ws, hw, rfl⟩
          rcases length_eq_ofBytes.mp hw with ⟨hle, rfl⟩
          rcases length_eq_ofBytes.mp hz with ⟨_, rfl⟩
          exact ⟨hle, by simp only [List.append_assoc]⟩
        · rintro ⟨hle, rfl⟩
          refine ⟨_, Emission.append_eq_ofBytes.mpr ⟨_, _,
            Emission.append_ofBytes.mpr ⟨_, length_eq_ofBytes.mpr ⟨hle, rfl⟩, rfl⟩,
            length_eq_ofBytes.mpr ⟨by omega, rfl⟩, rfl⟩, ?_⟩
          simp only [List.append_assoc]
      · rw [if_neg hg, if_neg hg, Emission.append_ofBytes]
        constructor
        · rintro ⟨xs, h, rfl⟩
          rcases Emission.append_ofBytes.mp h with ⟨ws, hw, rfl⟩
          rcases length_eq_ofBytes.mp hw with ⟨hle, rfl⟩
          exact ⟨hle, by simp only [List.append_assoc]⟩
        · rintro ⟨hle, rfl⟩
          refine ⟨_, Emission.append_ofBytes.mpr ⟨_, length_eq_ofBytes.mpr ⟨hle, rfl⟩, rfl⟩, ?_⟩
          simp only [List.append_assoc]

theorem uuid_eq_ofBytes {u : Uuid} {bytes : List UInt8} :
    uuid u = .ofBytes bytes ↔
      bytes = LittleEndian.encode 4 16 ++ ([BinarySubtype.uuidOld.code] ++ u.storedBytes) := by
  unfold uuid
  rw [Emission.append_ofBytes]
  constructor
  · rintro ⟨xs, h, rfl⟩
    rcases Emission.append_ofBytes.mp h with ⟨ws, hw, rfl⟩
    rcases length_eq_ofBytes.mp hw with ⟨_, rfl⟩
    simp only [List.append_assoc]
  · rintro rfl
    refine ⟨_, Emission.append_ofBytes.mpr ⟨_, length_eq_ofBytes.mpr ⟨by decide, rfl⟩, rfl⟩, ?_⟩
    simp only [List.append_assoc]

end Emit

/-! ### Arrays as documents -/

/-- A decimal digit is one byte, and not zero. -/
theorem encode_digit : ∀ n < 10, ∃ b : UInt8, b ≠ 0 ∧
    String.utf8EncodeChar (Nat.digitChar n) = [b] := by
  intro n hn
  refine ⟨UInt8.ofNat (48 + n), ?_, ?_⟩ <;> revert n <;> decide

/-- The text of a place holds no zero byte, and it has as many bytes as digits. -/
theorem encode_repr (n : Nat) :
    NulFree (Nat.repr n) ∧ (Nat.repr n).utf8ByteSize = decimalLength n := by
  unfold NulFree
  rw [← Utf8.length_encode]
  -- The text of a number ends in its last digit, and the others are those of a tenth of it.
  induction n using Nat.strongRecOn with
  | ind n ih =>
      rw [decimalLength]
      by_cases h : n < 10
      · rcases encode_digit n h with ⟨b, hb, hdigit⟩
        rw [if_pos h, Nat.repr_of_lt h, String.singleton_eq_ofList, Utf8.encode_ofList,
          List.flatMap_singleton, hdigit]
        exact ⟨fun hmem => hb (List.mem_singleton.mp hmem).symm, rfl⟩
      · rcases encode_digit (n % 10) (Nat.mod_lt n (by decide)) with ⟨b, hb, hdigit⟩
        rcases ih (n / 10) (by omega) with ⟨hfree, hlength⟩
        rw [if_neg h, Nat.repr_of_ge (by omega), Utf8.encode_append, List.length_append, hlength,
          String.singleton_eq_ofList, Utf8.encode_ofList, List.flatMap_singleton, hdigit]
        refine ⟨?_, rfl⟩
        intro hmem
        rcases List.mem_append.mp hmem with hmem | hmem
        · exact hfree hmem
        · exact hb (List.mem_singleton.mp hmem).symm

theorem itemsSize_eq_fieldsSize (items : List Value) :
    ∀ index, itemsSize index items = fieldsSize (itemFields index items) := by
  induction items with
  | nil =>
      intro index
      rfl
  | cons v rest ih =>
      intro index
      change 1 + decimalLength index + 1 + v.encodedSize + itemsSize (index + 1) rest =
        1 + (Nat.repr index).utf8ByteSize + 1 + v.encodedSize +
          fieldsSize (itemFields (index + 1) rest)
      rw [(encode_repr index).2, ih]

theorem emitItems_eq_emitFields (items : List Value) :
    ∀ index, emitItems index items = emitFields (itemFields index items) := by
  induction items with
  | nil =>
      intro index
      rfl
  | cons v rest ih =>
      intro index
      exact congrArg (Emit.tag v ++ Emit.key (Nat.repr index) ++ v.emit ++ ·) (ih (index + 1))

theorem encodedSize_array (items : List Value) :
    (Value.array items).encodedSize = (Document.ofItems items).encodedSize :=
  congrArg (4 + · + 1) (itemsSize_eq_fieldsSize items 0)

theorem emit_array (items : List Value) :
    (Value.array items).emit = (Document.ofItems items).emit := by
  change Emit.length (4 + itemsSize 0 items + 1) ++ emitItems 0 items ++ .ofBytes [0] =
    (Document.ofItems items).emit
  rw [emitItems_eq_emitFields, itemsSize_eq_fieldsSize]
  rfl

/-! ### Documents -/

theorem document_emit_eq_ofBytes {d : Document} {bytes : List UInt8} :
    d.emit = .ofBytes bytes ↔ d.encodedSize ≤ 2147483647 ∧
      ∃ body, emitFields d.fields = .ofBytes body ∧
        bytes = LittleEndian.encode 4 d.encodedSize ++ (body ++ [0]) := by
  rcases d with ⟨fields⟩
  have hemit : (Document.mk fields).emit =
      Emit.length (Document.mk fields).encodedSize ++ emitFields fields ++ .ofBytes [0] := rfl
  rw [hemit, Emission.append_ofBytes]
  constructor
  · rintro ⟨xs, h, rfl⟩
    rcases Emission.append_eq_ofBytes.mp h with ⟨ys, body, hy, hbody, rfl⟩
    rcases Emit.length_eq_ofBytes.mp hy with ⟨hle, rfl⟩
    exact ⟨hle, body, hbody, by rw [List.append_assoc]⟩
  · rintro ⟨hle, body, hbody, rfl⟩
    refine ⟨_, Emission.append_eq_ofBytes.mpr
      ⟨_, body, Emit.length_eq_ofBytes.mpr ⟨hle, rfl⟩, hbody, rfl⟩, ?_⟩
    rw [List.append_assoc]

theorem emitFields_cons_eq_ofBytes {name : String} {v : Value} {rest : List (String × Value)}
    {bytes : List UInt8} :
    emitFields ((name, v) :: rest) = .ofBytes bytes ↔ NulFree name ∧
      ∃ xs ys, v.emit = .ofBytes xs ∧ emitFields rest = .ofBytes ys ∧
        bytes = v.elementType.tag.toUInt8 :: ((Utf8.encode name ++ [0]) ++ (xs ++ ys)) := by
  have hemit : emitFields ((name, v) :: rest) =
      Emit.tag v ++ Emit.key name ++ v.emit ++ emitFields rest := rfl
  rw [hemit, Emission.append_eq_ofBytes]
  constructor
  · rintro ⟨ws, ys, h, hys, rfl⟩
    rcases Emission.append_eq_ofBytes.mp h with ⟨zs, xs, hz, hxs, rfl⟩
    rcases Emission.ofBytes_append.mp hz with ⟨ks, hk, rfl⟩
    rcases Emit.key_eq_ofBytes.mp hk with ⟨hname, rfl⟩
    exact ⟨hname, xs, ys, hxs, hys, by simp only [List.append_assoc, List.cons_append,
      List.nil_append]⟩
  · rintro ⟨hname, xs, ys, hxs, hys, rfl⟩
    refine ⟨_, ys, Emission.append_eq_ofBytes.mpr ⟨_, xs, Emission.ofBytes_append.mpr
      ⟨_, Emit.key_eq_ofBytes.mpr ⟨hname, rfl⟩, rfl⟩, hxs, rfl⟩, hys, ?_⟩
    simp only [List.append_assoc, List.cons_append, List.nil_append]

theorem pattern_eq_ofBytes {p : Pattern} {bytes : List UInt8} :
    (Value.pattern p).emit = .ofBytes bytes ↔ (NulFree p.source ∧ NulFree p.options) ∧
      bytes = (Utf8.encode p.source ++ [0]) ++ (Utf8.encode p.options ++ [0]) := by
  have hemit : (Value.pattern p).emit = Emit.key p.source ++ Emit.key p.options := rfl
  rw [hemit, Emission.append_eq_ofBytes]
  constructor
  · rintro ⟨xs, ys, hx, hy, rfl⟩
    rcases Emit.key_eq_ofBytes.mp hx with ⟨hsource, rfl⟩
    rcases Emit.key_eq_ofBytes.mp hy with ⟨hoptions, rfl⟩
    exact ⟨⟨hsource, hoptions⟩, rfl⟩
  · rintro ⟨⟨hsource, hoptions⟩, rfl⟩
    exact ⟨_, _, Emit.key_eq_ofBytes.mpr ⟨hsource, rfl⟩,
      Emit.key_eq_ofBytes.mpr ⟨hoptions, rfl⟩, rfl⟩

theorem codeWithScope_eq_ofBytes {source : String} {scope : Document} {bytes : List UInt8} :
    (Value.codeWithScope source scope).emit = .ofBytes bytes ↔
      4 + textSize source + scope.encodedSize ≤ 2147483647 ∧
      ∃ xs ys, Emit.text source = .ofBytes xs ∧ scope.emit = .ofBytes ys ∧
        bytes = LittleEndian.encode 4 (4 + textSize source + scope.encodedSize) ++ (xs ++ ys) := by
  have hemit : (Value.codeWithScope source scope).emit =
      Emit.length (4 + textSize source + scope.encodedSize) ++ Emit.text source ++ scope.emit := rfl
  rw [hemit, Emission.append_eq_ofBytes]
  constructor
  · rintro ⟨ws, ys, h, hys, rfl⟩
    rcases Emission.append_eq_ofBytes.mp h with ⟨zs, xs, hz, hxs, rfl⟩
    rcases Emit.length_eq_ofBytes.mp hz with ⟨hle, rfl⟩
    exact ⟨hle, xs, ys, hxs, hys, by rw [List.append_assoc]⟩
  · rintro ⟨hle, xs, ys, hxs, hys, rfl⟩
    refine ⟨_, ys, Emission.append_eq_ofBytes.mpr
      ⟨_, xs, Emit.length_eq_ofBytes.mpr ⟨hle, rfl⟩, hxs, rfl⟩, hys, ?_⟩
    rw [List.append_assoc]

/-! ### Sizes -/

theorem length_of_ofBytes {xs bytes : List UInt8} {n : Nat}
    (h : Emission.ofBytes xs = .ofBytes bytes) (hn : xs.length = n) : bytes.length = n := by
  rw [← Emission.ofBytes_inj.mp h, hn]

theorem length_of_text {s : String} {bytes : List UInt8} (h : Emit.text s = .ofBytes bytes) :
    bytes.length = textSize s := by
  rcases Emit.text_eq_ofBytes.mp h with ⟨_, rfl⟩
  simp only [List.length_append, LittleEndian.length_encode, Utf8.length_encode,
    List.length_singleton, textSize]
  omega

theorem length_of_binary {b : Binary} {bytes : List UInt8} (h : Emit.binary b = .ofBytes bytes) :
    bytes.length = b.encodedSize := by
  have hbytes := (Emit.binary_eq_ofBytes.mp h).2
  unfold Binary.encodedSize
  by_cases hg : b.subtype = .general
  · rw [if_pos hg] at hbytes ⊢
    rw [hbytes.2]
    simp only [List.length_append, LittleEndian.length_encode, List.length_singleton]
    omega
  · rw [if_neg hg] at hbytes ⊢
    rw [hbytes.2]
    simp only [List.length_append, LittleEndian.length_encode, List.length_singleton]
    omega

theorem length_of_scalar {v : Value} (hv : v.isScalar = true) {bytes : List UInt8}
    (h : v.emit = .ofBytes bytes) : bytes.length = v.encodedSize := by
  cases v with
  | document d => cases hv
  | array items => cases hv
  | codeWithScope source scope => cases hv
  | string s => exact length_of_text h
  | code source => exact length_of_text h
  | binary b => exact length_of_binary h
  | uuid u =>
      rw [Emit.uuid_eq_ofBytes.mp h]
      simp only [List.length_append, LittleEndian.length_encode, List.length_singleton,
        Uuid.length_storedBytes]
      rfl
  | pattern p =>
      rw [(pattern_eq_ofBytes.mp h).2]
      change _ = p.source.utf8ByteSize + 1 + p.options.utf8ByteSize + 1
      simp only [List.length_append, Utf8.length_encode, List.length_singleton]
      omega
  -- The other forms have a fixed width.
  | objectId id => exact length_of_ofBytes h id.bytes.length_toList
  | boolean b => exact length_of_ofBytes h rfl
  | double d => exact length_of_ofBytes h rfl
  | instant t => exact length_of_ofBytes h rfl
  | int32 n => exact length_of_ofBytes h rfl
  | int64 n => exact length_of_ofBytes h rfl
  | null => exact length_of_ofBytes h rfl
  | minKey => exact length_of_ofBytes h rfl
  | maxKey => exact length_of_ofBytes h rfl

theorem length_of_emitFields {fields : List (String × Value)}
    (hfields : ∀ field ∈ fields, ∀ bytes, field.2.emit = .ofBytes bytes →
      bytes.length = field.2.encodedSize) :
    ∀ bytes, emitFields fields = .ofBytes bytes → bytes.length = fieldsSize fields := by
  induction fields with
  | nil =>
      intro bytes h
      exact length_of_ofBytes h rfl
  | cons field rest ih =>
      intro bytes h
      rcases emitFields_cons_eq_ofBytes.mp h with ⟨_, xs, ys, hxs, hys, rfl⟩
      have hvalue := hfields field List.mem_cons_self xs hxs
      have hrest := ih (fun f hf => hfields f (List.mem_cons_of_mem field hf)) ys hys
      change _ = 1 + field.1.utf8ByteSize + 1 + field.2.encodedSize + fieldsSize rest
      simp only [List.length_cons, List.length_append, Utf8.length_encode, List.length_nil, hvalue,
        hrest]
      omega

theorem length_cases :
    Cases (fun v => ∀ bytes, v.emit = .ofBytes bytes → bytes.length = v.encodedSize)
      (fun d => ∀ bytes, d.emit = .ofBytes bytes → bytes.length = d.encodedSize) where
  scalar v hv _ h := length_of_scalar hv h
  document d ih bytes h := ih bytes h
  -- Arrays are written and measured as the documents that they are stored as.
  array items ih bytes h := by
    rw [emit_array] at h
    rw [encodedSize_array, ih bytes h]
  codeWithScope source scope ih bytes h := by
    rcases codeWithScope_eq_ofBytes.mp h with ⟨_, xs, ys, hxs, hys, rfl⟩
    change _ = 4 + textSize source + scope.encodedSize
    simp only [List.length_append, LittleEndian.length_encode, length_of_text hxs, ih ys hys]
    omega
  fields fields ih bytes h := by
    rcases document_emit_eq_ofBytes.mp h with ⟨_, body, hbody, rfl⟩
    have hlength := length_of_emitFields ih body hbody
    change _ = 4 + fieldsSize fields + 1
    simp only [List.length_append, LittleEndian.length_encode, List.length_singleton, hlength]
    omega

/-- A value takes as many bytes as computed beforehand. -/
theorem Value.length_of_emit {v : Value} {bytes : List UInt8} (h : v.emit = .ofBytes bytes) :
    bytes.length = v.encodedSize :=
  length_cases.value v bytes h

theorem Document.length_of_emit {d : Document} {bytes : List UInt8} (h : d.emit = .ofBytes bytes) :
    bytes.length = d.encodedSize :=
  length_cases.all d bytes h

/-! ### Acceptance -/

/-- What keeps a scalar from being written: a zero byte in a pattern, and a binary that
    would come back as an identifier. -/
def Value.ScalarWritable : Value → Prop
  | .pattern p => NulFree p.source ∧ NulFree p.options
  | .binary b => b.isStoredUuid = false
  | _ => True

/-- Names, patterns and binaries that can be written, at every depth of a value. -/
def Value.Writable (v : Value) : Prop :=
  v.Throughout Value.ScalarWritable (fun names => ∀ name ∈ names, NulFree name)

/-- Names, patterns and binaries that can be written, at every depth of a document. -/
def Document.Writable (d : Document) : Prop :=
  d.Throughout Value.ScalarWritable (fun names => ∀ name ∈ names, NulFree name)

/-- A text is never refused but for its length. -/
theorem emit_text_of_le {s : String} (h : textSize s ≤ 2147483647) :
    ∃ bytes, Emit.text s = .ofBytes bytes := by
  unfold textSize at h
  exact ⟨_, Emit.text_eq_ofBytes.mpr ⟨by omega, rfl⟩⟩

theorem emit_scalar_iff {v : Value} (hv : v.isScalar = true) (hsize : v.encodedSize ≤ 2147483647) :
    (∃ bytes, v.emit = .ofBytes bytes) ↔ v.ScalarWritable := by
  cases v with
  | document d => cases hv
  | array items => cases hv
  | codeWithScope source scope => cases hv
  | pattern p =>
      constructor
      · rintro ⟨bytes, h⟩
        exact (pattern_eq_ofBytes.mp h).1
      · intro h
        exact ⟨_, pattern_eq_ofBytes.mpr ⟨h, rfl⟩⟩
  | binary b =>
      change b.encodedSize ≤ 2147483647 at hsize
      rw [Binary.encodedSize] at hsize
      constructor
      · rintro ⟨bytes, h⟩
        exact (Emit.binary_eq_ofBytes.mp h).1
      · intro h
        refine Exists.imp (fun _ => Emit.binary_eq_ofBytes.mpr) ?_
        by_cases hg : b.subtype = .general
        · rw [if_pos hg] at hsize
          simp only [if_pos hg]
          exact ⟨_, h, by omega, rfl⟩
        · rw [if_neg hg] at hsize
          simp only [if_neg hg]
          exact ⟨_, h, by omega, rfl⟩
  | uuid u => exact iff_of_true ⟨_, Emit.uuid_eq_ofBytes.mpr rfl⟩ trivial
  | string s => exact iff_of_true (emit_text_of_le hsize) trivial
  | code source => exact iff_of_true (emit_text_of_le hsize) trivial
  -- The other forms are emitted as they are.
  | objectId id => exact iff_of_true ⟨_, rfl⟩ trivial
  | boolean b => exact iff_of_true ⟨_, rfl⟩ trivial
  | double d => exact iff_of_true ⟨_, rfl⟩ trivial
  | instant t => exact iff_of_true ⟨_, rfl⟩ trivial
  | int32 n => exact iff_of_true ⟨_, rfl⟩ trivial
  | int64 n => exact iff_of_true ⟨_, rfl⟩ trivial
  | null => exact iff_of_true ⟨_, rfl⟩ trivial
  | minKey => exact iff_of_true ⟨_, rfl⟩ trivial
  | maxKey => exact iff_of_true ⟨_, rfl⟩ trivial

/-- Acceptance of a value whose size fits into 32 bits. -/
def Value.AcceptedIff (v : Value) : Prop :=
  v.encodedSize ≤ 2147483647 → ((∃ bytes, v.emit = .ofBytes bytes) ↔ v.Writable)

theorem emitFields_iff_writable {fields : List (String × Value)}
    (hfields : ∀ field ∈ fields, field.2.AcceptedIff) (hsize : fieldsSize fields ≤ 2147483647) :
    (∃ bytes, emitFields fields = .ofBytes bytes) ↔
      (∀ field ∈ fields, NulFree field.1) ∧ ∀ field ∈ fields, field.2.Writable := by
  induction fields with
  | nil => exact iff_of_true ⟨[], rfl⟩ ⟨List.forall_mem_nil _, List.forall_mem_nil _⟩
  | cons field rest ih =>
      change 1 + field.1.utf8ByteSize + 1 + field.2.encodedSize + fieldsSize rest ≤ 2147483647
        at hsize
      -- Each part is no larger than the whole, so the bound holds for it too.
      have hvalue := hfields field List.mem_cons_self (by omega)
      have hrest := ih (fun f hf => hfields f (List.mem_cons_of_mem field hf)) (by omega)
      simp only [List.forall_mem_cons]
      constructor
      · rintro ⟨bytes, h⟩
        rcases emitFields_cons_eq_ofBytes.mp h with ⟨hname, xs, ys, hxs, hys, _⟩
        rcases hrest.mp ⟨ys, hys⟩ with ⟨hnames, hvalues⟩
        exact ⟨⟨hname, hnames⟩, hvalue.mp ⟨xs, hxs⟩, hvalues⟩
      · rintro ⟨⟨hname, hnames⟩, hwritable, hvalues⟩
        rcases hvalue.mpr hwritable with ⟨xs, hxs⟩
        rcases hrest.mpr ⟨hnames, hvalues⟩ with ⟨ys, hys⟩
        exact ⟨_, emitFields_cons_eq_ofBytes.mpr ⟨hname, xs, ys, hxs, hys, rfl⟩⟩

theorem writable_ofItems (items : List Value) :
    (Document.ofItems items).Writable ↔ (Value.array items).Writable := by
  refine throughout_ofItems items ?_
  intro name hname
  rcases List.mem_map.mp hname with ⟨field, hfield, rfl⟩
  rcases mem_itemFields hfield with ⟨_, place, _, hplace⟩
  rw [hplace]
  exact (encode_repr place).1

theorem accepted_cases :
    Cases Value.AcceptedIff (fun d => d.encodedSize ≤ 2147483647 →
      ((∃ bytes, d.emit = .ofBytes bytes) ↔ d.Writable)) where
  scalar v hv hsize := by
    rw [Value.Writable, Value.throughout_scalar hv]
    exact emit_scalar_iff hv hsize
  document d ih hsize := ih hsize
  array items ih hsize := by
    rw [encodedSize_array] at hsize
    rw [emit_array, ← writable_ofItems]
    exact ih hsize
  codeWithScope source scope ih hsize := by
    change 4 + textSize source + scope.encodedSize ≤ 2147483647 at hsize
    -- The scope and the code are smaller than the whole, so that their lengths fit as well.
    have hscope := ih (by omega)
    constructor
    · rintro ⟨bytes, h⟩
      rcases codeWithScope_eq_ofBytes.mp h with ⟨_, _, ys, _, hys, _⟩
      exact hscope.mp ⟨ys, hys⟩
    · intro h
      rcases emit_text_of_le (s := source) (by omega) with ⟨xs, hxs⟩
      rcases hscope.mpr h with ⟨ys, hys⟩
      exact ⟨_, codeWithScope_eq_ofBytes.mpr ⟨hsize, xs, ys, hxs, hys, rfl⟩⟩
  fields fields ih hsize := by
    have hlength : 4 + fieldsSize fields + 1 ≤ 2147483647 := hsize
    have hfields := emitFields_iff_writable ih (by omega)
    rw [Document.Writable, Document.throughout_iff, Document.keys, List.forall_mem_map]
    constructor
    · rintro ⟨bytes, h⟩
      rcases document_emit_eq_ofBytes.mp h with ⟨_, body, hbody, _⟩
      exact hfields.mp ⟨body, hbody⟩
    · intro h
      rcases hfields.mpr h with ⟨body, hbody⟩
      exact ⟨_, document_emit_eq_ofBytes.mpr ⟨hsize, body, hbody, rfl⟩⟩

/-- Below 32 bits a document is written exactly if it is writable: every length inside it
    is at most its own size, so none of them overflows. -/
theorem Document.emit_iff_writable {d : Document} (hsize : d.encodedSize ≤ 2147483647) :
    (∃ bytes, d.emit = .ofBytes bytes) ↔ d.Writable :=
  accepted_cases.all d hsize

/-- A document is encoded exactly by the emission of its bytes within the limit. -/
theorem Document.encode_eq_ok {d : Document} {options : CodecOptions} {bytes : List UInt8} :
    d.encode options = .ok bytes ↔
      d.encodedSize ≤ options.maxMessageSize ∧ d.emit = .ofBytes bytes := by
  unfold Document.encode Document.write
  by_cases h : options.maxMessageSize < d.encodedSize
  · rw [if_pos h]
    exact ⟨fun hf => absurd hf (by simp [Emission.fail]), fun hf => absurd hf.1 (by omega)⟩
  · rw [if_neg h, and_iff_right (by omega)]
    -- The size has been checked, and nothing is written before a failure is returned.
    rcases d.emit with ⟨written, failure⟩
    cases failure with
    | none =>
        simp only [Except.ok.injEq]
        exact Emission.ofBytes_inj.symm
    | some e =>
        exact ⟨fun hf => absurd hf (by simp), fun hf => absurd hf (by simp [Emission.ofBytes])⟩

end DocumentMapper
