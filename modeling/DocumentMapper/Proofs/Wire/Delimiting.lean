import DocumentMapper.Proofs.Wire.Acceptance

/-!
# Where bytes break off

Bytes that stand for a document say themselves where they end. So the reader returns the
document whatever follows them, and if they break off before, it fails for want of bytes
and for no other reason. Both are said of a decoder by `Delimits`.

They are proved together, since bytes that break off somewhere in a sequence of two
decoders break off in the first or behind it: behind it the first one returns what it
returns for all bytes, and the second one is short of bytes. A text may break off within
a character, and then the loop holds the beginning of the character when it meets the
end; nothing it has seen is malformed, and it has to say so.

The reader is bounded by a number of steps, which it takes from the bytes that come. If
they break off there may be too few steps, but a reader out of steps fails as one out of
bytes does. So `Delimits` has a condition under which there are enough, and demands
nothing but that failure without it.

## Main definitions

* `Decoder.Delimits`: A decoder takes given bytes, and fails if they break off.
* `DocumentDelimits`, `FieldsDelimit`, `ValueDelimits`: This for what bytes stand for.

## Theorems

* `delimits_bind`: Decoders in sequence.
* `delimits_key`, `delimits_text`: Names and texts.
* `delimits_document`, `delimits_fields`, `delimits_value`: What bytes stand for is read.
* `read_eq_ok`: What is accepted.
* `read_delimited`: The end of a document.
-/

namespace DocumentMapper

namespace Decoder

variable {α β : Type}

/-- Standing at `start`, the decoder takes exactly these bytes and returns the value, unless
    it has not enough steps; and if the bytes break off it is at their end. -/
structure Delimits (enough : Prop) (m : Decoder α) (start : Nat) (bytes : List UInt8) (a : α) :
    Prop where
  whole : ∀ (source : Source) (rest : List UInt8), source.pending = bytes ++ rest →
    (∃ final : Source, final.pending = rest ∧
      m.run ⟨source, start⟩ = .ok (a, ⟨final, start + bytes.length⟩)) ∨
    (¬enough ∧ m.run ⟨source, start⟩ = .error .unexpectedEnd)
  short : ∀ source : Source, source.pending <+: bytes → source.pending ≠ bytes →
    m.run ⟨source, start⟩ = .error .unexpectedEnd

/-- With enough steps the bytes are read. -/
theorem Delimits.reads {enough : Prop} {m : Decoder α} {start : Nat} {bytes : List UInt8} {a : α}
    (h : Delimits enough m start bytes a) (henough : enough) : Reads m start bytes a := by
  intro source rest hsource
  rcases h.whole source rest hsource with hread | ⟨hshort, _⟩
  · exact hread
  · exact absurd henough hshort

theorem Delimits.mono {enough more : Prop} {m : Decoder α} {start : Nat} {bytes : List UInt8}
    {a : α} (h : Delimits enough m start bytes a) (hmore : more → enough) :
    Delimits more m start bytes a where
  whole source rest hsource :=
    (h.whole source rest hsource).imp_right fun ⟨hshort, hrun⟩ => ⟨mt hmore hshort, hrun⟩
  short := h.short

/-- A decoder that is not bounded by steps. -/
theorem delimits_of_reads {m : Decoder α} {start : Nat} {bytes : List UInt8} {a : α}
    (h : Reads m start bytes a) (short : ∀ source : Source, source.pending <+: bytes →
      source.pending ≠ bytes → m.run ⟨source, start⟩ = .error .unexpectedEnd) :
    Delimits True m start bytes a where
  whole source rest hsource := .inl (h source rest hsource)
  short := short

/-- No steps are not enough. -/
theorem delimits_out_of_steps {enough : Prop} (h : ¬enough) (start : Nat) (bytes : List UInt8)
    (a : α) :
    Delimits enough (throw .unexpectedEnd) start bytes a where
  whole _ _ _ := .inr ⟨h, rfl⟩
  short _ _ _ := rfl

theorem delimits_pure (start : Nat) (a : α) : Delimits True (pure a) start [] a :=
  delimits_of_reads (reads_pure start a) fun _ hbegins hne =>
    absurd (List.prefix_nil.mp hbegins) hne

/-- Bytes that break off somewhere in two pieces break off in the first or in the second. -/
theorem prefix_append_cases {xs ys zs : List UInt8} (h : zs <+: xs ++ ys) (hne : zs ≠ xs ++ ys) :
    (zs <+: xs ∧ zs ≠ xs) ∨ ∃ more, zs = xs ++ more ∧ more <+: ys ∧ more ≠ ys := by
  rcases h with ⟨tail, htail⟩
  rcases List.append_eq_append_iff.mp htail with ⟨gap, hxs, hgap⟩ | ⟨more, hzs, hys⟩
  · by_cases hsame : zs = xs
    · refine .inr ⟨[], by rw [hsame, List.append_nil], List.nil_prefix, ?_⟩
      rintro rfl
      exact hne (by rw [hsame, List.append_nil])
    · exact .inl ⟨⟨gap, hxs.symm⟩, hsame⟩
  · refine .inr ⟨more, hzs, ⟨tail, hys.symm⟩, ?_⟩
    rintro rfl
    exact hne hzs

theorem delimits_bind {p q : Prop} {m : Decoder α} {f : α → Decoder β} {start : Nat}
    {xs ys : List UInt8} {a : α} {b : β} (hm : Delimits p m start xs a)
    (hf : Delimits q (f a) (start + xs.length) ys b) :
    Delimits (p ∧ q) (m >>= f) start (xs ++ ys) b where
  whole source rest hsource := by
    rw [List.append_assoc] at hsource
    rw [StateT.run_bind, List.length_append, ← Nat.add_assoc]
    rcases hm.whole source (ys ++ rest) hsource with ⟨middle, hmiddle, hrun⟩ | ⟨hshort, hrun⟩
    · rw [hrun]
      exact (hf.whole middle rest hmiddle).imp_right
        fun ⟨hshort, hrun⟩ => ⟨fun h => hshort h.2, hrun⟩
    · rw [hrun]
      exact .inr ⟨fun h => hshort h.1, rfl⟩
  short source hbegins hne := by
    rw [StateT.run_bind]
    -- An end that comes too soon is in what the first decoder reads, or in what the second does.
    rcases prefix_append_cases hbegins hne with ⟨hfirst, hne⟩ | ⟨more, hmore, hsecond, hne⟩
    · rw [hm.short source hfirst hne]
      rfl
    · rcases hm.whole source more hmore with ⟨middle, rfl, hrun⟩ | ⟨_, hrun⟩
      · rw [hrun]
        exact hf.short middle hsecond hne
      · rw [hrun]
        rfl

/-- A decoder bounded by steps behind one that is not. -/
theorem delimits_true_bind {enough : Prop} {m : Decoder α} {f : α → Decoder β} {start : Nat}
    {xs ys : List UInt8} {a : α} {b : β} (hm : Delimits True m start xs a)
    (hf : Delimits enough (f a) (start + xs.length) ys b) :
    Delimits enough (m >>= f) start (xs ++ ys) b :=
  (delimits_bind hm hf).mono fun h => ⟨trivial, h⟩

/-- A decoder that takes no more bytes behind one that is bounded by steps. -/
theorem delimits_bind_nil {enough : Prop} {m : Decoder α} {f : α → Decoder β} {start : Nat}
    {bytes : List UInt8} {a : α} {b : β} (hm : Delimits enough m start bytes a)
    (hf : Delimits True (f a) (start + bytes.length) [] b) :
    Delimits enough (m >>= f) start bytes b := by
  have h := (delimits_bind hm hf).mono fun henough => ⟨henough, trivial⟩
  rw [List.append_nil] at h
  exact h

/-- A last step that computes the result. -/
theorem delimits_map {enough : Prop} {m : Decoder α} {start : Nat} {bytes : List UInt8} {a : α}
    (f : α → β) (hm : Delimits enough m start bytes a) :
    Delimits enough (do return f (← m)) start bytes (f a) :=
  delimits_bind_nil hm (delimits_pure _ (f a))

theorem delimits_position_bind {enough : Prop} {f : Nat → Decoder β} {start : Nat}
    {bytes : List UInt8} {b : β} (hf : Delimits enough (f start) start bytes b) :
    Delimits enough (position >>= f) start bytes b where
  whole := hf.whole
  short := hf.short

/-! ### Bytes and numbers -/

theorem length_lt_of_prefix {xs ys : List UInt8} (h : xs <+: ys) (hne : xs ≠ ys) :
    xs.length < ys.length :=
  Nat.lt_of_le_of_ne h.length_le fun hlength => hne (h.eq_of_length hlength)

variable (start : Nat)

theorem delimits_bytes {xs : List UInt8} {count : Nat} (hcount : xs.length = count) :
    Delimits True (bytes count) start xs xs := by
  refine delimits_of_reads (reads_bytes start xs hcount) fun source hbegins hne => ?_
  exact bytes_short (hcount ▸ length_lt_of_prefix hbegins hne) start

theorem delimits_byte (b : UInt8) : Delimits True byte start [b] b :=
  delimits_map (fun xs : List UInt8 => xs.headD 0) (delimits_bytes start (rfl : [b].length = 1))

theorem delimits_int32 {bytes : List UInt8} (width : bytes.length = 4) :
    Delimits True int32 start bytes (LittleEndian.toInt32 bytes) :=
  delimits_map LittleEndian.toInt32 (delimits_bytes start width)

theorem delimits_int64 {bytes : List UInt8} (width : bytes.length = 8) :
    Delimits True int64 start bytes (LittleEndian.toInt64 bytes) :=
  delimits_map LittleEndian.toInt64 (delimits_bytes start width)

/-! ### Names and texts -/

/-- The loop over a name meets the end of the bytes if there is no zero byte, and nothing
    malformed before it if the bytes begin a text. -/
theorem keyFrom_short (steps : Nat) :
    ∀ (carry : Carry) (fill more : List UInt8) (source : Source) (text missing : String)
      (start : Nat), 0 ∉ source.pending →
      carry.held ++ fill ++ (source.pending ++ more) = Utf8.encode missing →
      (keyFrom steps carry fill text).run ⟨source, start⟩ = .error .unexpectedEnd := by
  induction steps with
  | zero =>
      intro carry fill more source text missing start _ _
      rfl
  | succ steps ih =>
      intro carry fill more source text missing start hzero hbytes
      rw [keyFrom, StateT.run_bind]
      cases hpending : source.pending with
      | nil =>
          rw [byte_end hpending]
          rfl
      | cons b rest =>
          rcases reads_byte start b source rest hpending with ⟨next, rfl, hbyte⟩
          rw [hpending, List.mem_cons, not_or] at hzero
          have hfill : carry.held ++ (fill ++ [b]) ++ (next.pending ++ more) =
              Utf8.encode missing := by
            rw [← hbytes, hpending]
            simp only [List.append_assoc, List.cons_append, List.nil_append]
          rw [hbyte]
          change (if b = 0 then _ else if fill.length + 1 < carry.room then
              keyFrom steps carry (fill ++ [b]) text
              else (commit carry (fill ++ [b]) >>= fun decoded =>
                keyFrom steps decoded.carry [] (text ++ decoded.text))).run ⟨next, start + 1⟩ = _
          rw [if_neg (Ne.symm hzero.1)]
          by_cases hroom : fill.length + 1 < carry.room
          · rw [if_pos hroom]
            exact ih carry (fill ++ [b]) more next text missing (start + 1) hzero.2 hfill
          · -- What is decoded leaves the beginning of a text.
            rw [if_neg hroom]
            rcases carry.commit?_of_encode (fill ++ [b]) (next.pending ++ more) missing hfill with
              ⟨d, left, hcommit, _, hleft, _, _, _⟩
            unfold commit
            rw [hcommit]
            refine ih d.carry [] more next (text ++ d.text) left (start + 1) hzero.2 ?_
            rw [List.append_nil, hleft]

theorem delimits_key (options : CodecOptions) {s : String} (hs : NulFree s) :
    Delimits True (key options) start (Utf8.encode s ++ [0]) s := by
  refine delimits_of_reads (reads_key options start hs) fun source hbegins hne => ?_
  -- What breaks off before the zero byte is a beginning of the name.
  have hname : source.pending <+: Utf8.encode s := by
    rcases List.prefix_concat_iff.mp hbegins with hwhole | hname
    · exact absurd hwhole hne
    · exact hname
  rcases hname with ⟨more, hmore⟩
  have hzero : 0 ∉ source.pending := fun hmem =>
    hs (hmore ▸ List.mem_append_left more hmem)
  exact keyFrom_short _ (.ofCapacity options.readBufferSize) [] more source "" s start hzero hmore

theorem textOfLength_short (options : CodecOptions) {s : String} {source : Source}
    (hbegins : source.pending <+: Utf8.encode s) (hne : source.pending ≠ Utf8.encode s) :
    (textOfLength options (Utf8.encode s).length).run ⟨source, start⟩ = .error .unexpectedEnd := by
  have hlength := length_lt_of_prefix hbegins hne
  rcases hbegins with ⟨more, hmore⟩
  rw [← List.append_nil (Utf8.encode s)] at hmore
  -- What has come is whole characters and a part of the next one, so it is never malformed.
  rcases Utf8.exists_cut_append hmore (.inl rfl) with ⟨first, _, part, _, hbytes, hpart, _⟩
  have houtcome : textOutcome [] source.pending (Utf8.encode s).length "" start =
      .error .unexpectedEnd := by
    unfold textOutcome
    rw [List.nil_append, List.take_of_length_le (Nat.le_of_lt hlength),
      Utf8.cut?_eq_some.mpr ⟨hbytes, hpart⟩]
    exact if_pos hlength
  have hmatches := textOfLength_matches options (Utf8.encode s).length ⟨source, start⟩
  rw [houtcome] at hmatches
  generalize (textOfLength options (Utf8.encode s).length).run ⟨source, start⟩ = outcome at hmatches
  cases hmatches with
  | error related => rw [related]

theorem delimits_textOfLength (options : CodecOptions) (s : String) :
    Delimits True (textOfLength options (Utf8.encode s).length) start (Utf8.encode s) s := by
  refine delimits_of_reads ?_ fun source => textOfLength_short start options
  rw [Utf8.length_encode]
  exact reads_textOfLength options start s

theorem delimits_text (options : CodecOptions) {bytes : List UInt8} {s : String}
    {trusted : List Trusted} (h : TextDenotes bytes s trusted) :
    Delimits True (text options) start bytes s := by
  rcases h with ⟨length⟩
  rename_i lead b
  have hvalue := length.value
  rw [List.length_append, List.length_singleton] at hvalue
  unfold text
  refine delimits_true_bind (delimits_int32 start length.width) ?_
  dsimp only
  -- The announced length is the one of the text and its zero byte, so the text is read in full.
  rw [if_neg (by rw [Int32.lt_iff_toInt_lt, hvalue, Int32.toInt_one]; omega), hvalue,
    show (((Utf8.encode s).length + 1 : Nat) - 1 : Int).toNat = (Utf8.encode s).length by omega]
  refine delimits_true_bind (delimits_textOfLength _ options s) ?_
  exact delimits_map _ (delimits_byte _ b)

/-! ### Binaries and other scalars -/

theorem delimits_binaryLength {lead : List UInt8} {n : Nat} (h : Announces lead n) :
    Delimits True binaryLength start lead n := by
  unfold binaryLength
  refine delimits_bind_nil (delimits_int32 start h.width) ?_
  dsimp only
  rw [if_neg (by rw [Int32.lt_iff_toInt_lt, h.value, Int32.toInt_zero]; omega), h.value]
  exact delimits_pure _ n

theorem delimits_binary {lead payload : List UInt8} {code : UInt8}
    (special : code ≠ BinarySubtype.general.code) (length : Announces lead payload.length) :
    Delimits True binary start (lead ++ ([code] ++ payload))
      (.ofBinary ⟨.ofCode code, payload⟩) := by
  unfold binary
  refine delimits_true_bind (delimits_binaryLength start length) ?_
  refine delimits_true_bind (delimits_byte _ code) ?_
  dsimp only
  rw [if_neg (BinarySubtype.ofCode_ne_general special)]
  exact delimits_true_bind (delimits_pure _ _) (delimits_map _ (delimits_bytes _ rfl))

theorem delimits_generalBinary {outer inner payload : List UInt8} {declared : Nat}
    (outer_length : Announces outer declared) (inner_length : Announces inner payload.length) :
    Delimits True binary start (outer ++ ([BinarySubtype.general.code] ++ (inner ++ payload)))
      (.binary ⟨.general, payload⟩) := by
  unfold binary
  refine delimits_true_bind (delimits_binaryLength start outer_length) ?_
  refine delimits_true_bind (delimits_byte _ BinarySubtype.general.code) ?_
  refine delimits_true_bind (delimits_binaryLength _ inner_length) ?_
  exact delimits_map _ (delimits_bytes _ rfl)

theorem delimits_instant {bytes : List UInt8} {t : Instant} (width : bytes.length = 8)
    (millis : Instant.ofMillis? (LittleEndian.toInt64 bytes).toInt = some t) :
    Delimits True instant start bytes (.instant t) := by
  unfold instant
  refine delimits_bind_nil (delimits_int64 start width) ?_
  rw [millis]
  exact delimits_pure _ _

theorem delimits_objectId {bytes : List UInt8} {id : Vector UInt8 12}
    (digits : vectorOfList? 12 bytes = some id) :
    Delimits True objectId start bytes (.objectId ⟨id⟩) := by
  unfold objectId
  refine delimits_bind_nil (delimits_bytes start (length_of_vectorOfList? digits)) ?_
  rw [digits]
  exact delimits_pure _ _

theorem delimits_scalar (options : CodecOptions) (steps : Nat) {type : ElementType}
    {bytes : List UInt8} {v : Value} {trusted : List Trusted}
    (h : ScalarDenotes type bytes v trusted) :
    Delimits True (valueWithin options (steps + 1) type) start bytes v := by
  cases h with
  | null => exact delimits_pure start _
  | undefined => exact delimits_pure start _
  | minKey => exact delimits_pure start _
  | maxKey => exact delimits_pure start _
  | boolean b => exact delimits_map (fun b : UInt8 => Value.boolean (b ≠ 0)) (delimits_byte start b)
  | int32 width => exact delimits_map _ (delimits_int32 start width)
  | int64 width => exact delimits_map _ (delimits_int64 start width)
  | double width =>
      exact delimits_map (fun bytes => Value.double ⟨UInt64.ofNat (LittleEndian.decode bytes)⟩)
        (delimits_bytes start width)
  | instant width millis => exact delimits_instant start width millis
  | objectId digits => exact delimits_objectId start digits
  | string text => exact delimits_map _ (delimits_text start options text)
  | code text => exact delimits_map _ (delimits_text start options text)
  | @pattern p source flags =>
      exact delimits_true_bind (delimits_key start options source)
        (delimits_map (fun flags => Value.pattern ⟨p.source, flags⟩) (delimits_key _ options flags))
  | binary special length => exact delimits_binary start special length
  | generalBinary outer_length inner_length =>
      exact delimits_generalBinary start outer_length inner_length

/-! ### Documents -/

section Documents

variable (options : CodecOptions)

/-- The bytes of a document are read anywhere, and at the start of a message if they are
    within the limit. -/
def DocumentDelimits (bytes : List UInt8) (d : Document) : Prop :=
  ∀ steps start, (start = 0 → bytes.length ≤ options.maxMessageSize) →
    Delimits (2 * bytes.length ≤ steps) (documentWithin options steps) start bytes d

/-- The bytes of fields are read if they and the terminator make up what is left of the
    declared size. -/
def FieldsDelimit (bytes : List UInt8) (fields : List (String × Value)) : Prop :=
  ∀ steps start place size d, start < place → place - start + bytes.length + 1 = size →
    Delimits (2 * bytes.length < steps) (fieldsWithin options steps start size d) place bytes
      (d.merge ⟨fields⟩)

/-- The bytes of a value are read behind the start of a message. -/
def ValueDelimits (type : ElementType) (bytes : List UInt8) (v : Value) : Prop :=
  ∀ steps start, 0 < start →
    Delimits (2 * bytes.length < steps) (valueWithin options steps type) start bytes v

variable {options}

/-- A document is its size, its fields and a zero byte. -/
theorem delimits_document_mk {lead body : List UInt8} {fields : List (String × Value)}
    (length : Announces lead (lead ++ (body ++ [0])).length)
    (hfields : FieldsDelimit options body fields) :
    DocumentDelimits options (lead ++ (body ++ [0])) (.ofList fields) := by
  intro steps start hlimit
  have hlength : (lead ++ (body ++ [0])).length = 4 + body.length + 1 := by
    simp only [List.length_append, List.length_singleton, length.width]
    omega
  cases steps with
  | zero => exact delimits_out_of_steps (by omega) start _ _
  | succ steps =>
      have hvalue := length.value
      rw [hlength] at hvalue hlimit ⊢
      -- The place behind the size, from where the fields are read up to the terminator.
      have hbody := hfields steps start (start + lead.length) (4 + body.length + 1) .empty
        (by rw [length.width]; omega) (by rw [length.width]; omega)
      rw [Document.empty_merge] at hbody
      rw [documentWithin]
      refine delimits_position_bind ?_
      refine delimits_true_bind (delimits_int32 start length.width) ?_
      dsimp only
      rw [if_neg (by rw [Int32.lt_iff_toInt_lt, hvalue]; simp; omega), hvalue, Int.toNat_natCast,
        if_neg (by simp; omega)]
      refine (delimits_bind hbody ?_).mono fun h => ⟨by omega, trivial⟩
      refine delimits_bind_nil (delimits_byte _ 0) ?_
      rw [if_neg (by decide)]
      refine delimits_position_bind ?_
      rw [if_neg (by rw [length.width, List.length_singleton]; omega)]
      exact delimits_pure _ _

theorem delimits_fields_nil : FieldsDelimit options [] [] := by
  intro steps start place size d hplace hsize
  cases steps with
  | zero => exact delimits_out_of_steps (by omega) place _ _
  | succ steps =>
      rw [fieldsWithin]
      refine delimits_position_bind ?_
      rw [if_neg (by rw [← hsize, List.length_nil]; omega)]
      exact (delimits_pure place d).mono fun _ => trivial

theorem delimits_fields_cons {type : ElementType} {name : String} {value rest : List UInt8}
    {v : Value} {fields : List (String × Value)} (nulFree : NulFree name)
    (hvalue : ValueDelimits options type value v) (hrest : FieldsDelimit options rest fields) :
    FieldsDelimit options (type.tag.toUInt8 :: ((Utf8.encode name ++ [0]) ++ (value ++ rest)))
      ((name, v) :: fields) := by
  intro steps start place size d hplace hsize
  have hlength : (type.tag.toUInt8 :: ((Utf8.encode name ++ [0]) ++ (value ++ rest))).length =
      1 + (Utf8.encode name ++ [0]).length + value.length + rest.length := by
    simp only [List.length_cons, List.length_append]
    omega
  have hname : 0 < (Utf8.encode name ++ [0]).length := by
    rw [List.length_append, List.length_singleton]
    omega
  rw [hlength] at hsize ⊢
  cases steps with
  | zero => exact delimits_out_of_steps (by omega) place _ _
  | succ steps =>
      rw [fieldsWithin]
      refine delimits_position_bind ?_
      rw [if_pos (by omega)]
      refine delimits_true_bind (delimits_byte place type.tag.toUInt8) ?_
      refine delimits_true_bind (delimits_key _ options nulFree) ?_
      rw [Int8.toInt8_toUInt8, ElementType.ofTag?_tag]
      -- With two steps for each byte, the tag alone makes up for the step that is taken here.
      refine (delimits_bind (hvalue steps _ (by omega)) (hrest steps start _ size
        (d.insert name v) ?_ ?_)).mono fun h => ⟨by omega, by omega⟩
      · rw [List.length_singleton]
        omega
      · rw [List.length_singleton]
        omega

theorem delimits_value_map {type : ElementType} {bytes : List UInt8} {d : Document}
    {f : Document → Value} (hd : DocumentDelimits options bytes d)
    (hf : ∀ steps, valueWithin options (steps + 1) type =
      do return f (← documentWithin options steps)) :
    ValueDelimits options type bytes (f d) := by
  intro steps start hstart
  cases steps with
  | zero => exact delimits_out_of_steps (Nat.not_lt_zero _) start _ _
  | succ steps =>
      rw [hf]
      exact (delimits_map f (hd steps start (by omega))).mono fun h => by omega

theorem delimits_codeWithScope {lead source scope : List UInt8} {s : String} {d : Document}
    {trusted : List Trusted} (length : Announces lead (lead ++ (source ++ scope)).length)
    (hsource : TextDenotes source s trusted) (hscope : DocumentDelimits options scope d) :
    ValueDelimits options .codeWithScope (lead ++ (source ++ scope)) (.codeWithScope s d) := by
  intro steps start hstart
  have hlength : (lead ++ (source ++ scope)).length = 4 + source.length + scope.length := by
    simp only [List.length_append, length.width]
    omega
  cases steps with
  | zero => exact delimits_out_of_steps (Nat.not_lt_zero _) start _ _
  | succ steps =>
      have hvalue := length.value
      rw [hlength] at hvalue ⊢
      rw [valueWithin]
      refine delimits_position_bind ?_
      refine delimits_true_bind (delimits_int32 start length.width) ?_
      refine delimits_true_bind (delimits_text _ options hsource) ?_
      -- The scope is read with one step less, which is why it may run out of steps here.
      refine (delimits_bind_nil (hscope steps _ (by omega)) ?_).mono fun h => by omega
      refine delimits_position_bind ?_
      dsimp only
      rw [if_neg (by rw [hvalue, length.width]; omega)]
      exact delimits_pure _ _

mutual

/-- The bytes of a document are read as the document. -/
theorem delimits_document : ∀ {bytes : List UInt8} {d : Document} {trusted : List Trusted},
    DocumentDenotes bytes d trusted → DocumentDelimits options bytes d
  | _, _, _, .mk length denotes => delimits_document_mk length (delimits_fields denotes)

/-- The bytes of fields are read as the fields. -/
theorem delimits_fields :
    ∀ {bytes : List UInt8} {fields : List (String × Value)} {trusted : List Trusted},
      FieldsDenote bytes fields trusted → FieldsDelimit options bytes fields
  | _, _, _, .nil => delimits_fields_nil
  | _, _, _, .cons nulFree valueDenotes restDenote =>
      delimits_fields_cons nulFree (delimits_value valueDenotes) (delimits_fields restDenote)

/-- The bytes of a value are read as the value. -/
theorem delimits_value :
    ∀ {type : ElementType} {bytes : List UInt8} {v : Value} {trusted : List Trusted},
      ValueDenotes type bytes v trusted → ValueDelimits options type bytes v
  | _, _, _, _, .scalar denotes => fun steps start _ =>
      match steps with
      | 0 => delimits_out_of_steps (Nat.not_lt_zero _) start _ _
      | steps + 1 => (delimits_scalar start options steps denotes).mono fun _ => trivial
  | _, _, _, _, .document denotes =>
      delimits_value_map (f := .document) (delimits_document denotes) fun _ => rfl
  | _, _, _, _, .array denotes =>
      delimits_value_map (f := fun d => .array d.values) (delimits_document denotes) fun _ => rfl
  | _, _, _, _, .codeWithScope length sourceDenotes scopeDenotes =>
      delimits_codeWithScope length sourceDenotes (delimits_document scopeDenotes)

end

end Documents

end Decoder

namespace Document

variable {options : CodecOptions} {wire : List UInt8} {d : Document} {trusted : List Trusted}

theorem message_run (source : Source) :
    (Decoder.message options).run ⟨source, 0⟩ =
      (Decoder.documentWithin options (2 * source.pending.length + 3)).run ⟨source, 0⟩ :=
  rfl

/-- Bytes that stand for a document are read as the document, whatever follows. -/
theorem read_of_denotes (h : DocumentDenotes wire d trusted)
    (hlimit : wire.length ≤ options.maxMessageSize) {source : Source} {rest : List UInt8}
    (hsource : source.pending = wire ++ rest) : read options source = .ok (d, wire.length) := by
  have hsteps : 2 * wire.length ≤ 2 * source.pending.length + 3 := by
    rw [hsource, List.length_append]
    omega
  have hreads := ((Decoder.delimits_document h) _ 0 fun _ => hlimit).reads hsteps
  rcases hreads source rest hsource with ⟨final, _, hrun⟩
  unfold read
  rw [message_run, hrun, Nat.zero_add]

/-- Where they break off, the reader meets the end. -/
theorem read_of_short (h : DocumentDenotes wire d trusted)
    (hlimit : wire.length ≤ options.maxMessageSize) {source : Source}
    (hbegins : source.pending <+: wire) (hne : source.pending ≠ wire) :
    read options source = .error .unexpectedEnd := by
  have hshort := ((Decoder.delimits_document h) (2 * source.pending.length + 3) 0
    fun _ => hlimit).short source hbegins hne
  unfold read
  rw [message_run, hshort]

/-- What is accepted: bytes within the limit that stand for a document. -/
theorem read_eq_ok {source : Source} {n : Nat} :
    read options source = .ok (d, n) ↔
      ∃ wire rest trusted, source.pending = wire ++ rest ∧ wire.length = n ∧
        n ≤ options.maxMessageSize ∧ DocumentDenotes wire d trusted := by
  constructor
  · exact denotes_of_read
  · rintro ⟨wire, rest, trusted, hsource, rfl, hlimit, h⟩
    exact read_of_denotes h hlimit hsource

theorem four_le_length (h : DocumentDenotes wire d trusted) : 4 ≤ wire.length := by
  cases h with
  | mk length _ =>
      rw [List.length_append, length.width]
      exact Nat.le_add_right _ _

/-- The bytes of a document begin with their number. -/
theorem size_of_denotes (h : DocumentDenotes wire d trusted) :
    (LittleEndian.toInt32 (wire.take 4)).toInt = wire.length := by
  cases h with
  | mk length _ =>
      rw [← length.width, List.take_left]
      exact length.value

/-- A document that was read ends where its first four bytes say. What follows does not
    matter, and without the last of its bytes the reader meets the end. -/
theorem read_delimited {source : Source} {n : Nat} (h : read options source = .ok (d, n)) :
    n ≤ source.pending.length ∧
      (LittleEndian.toInt32 (source.pending.take 4)).toInt = n ∧
      (∀ (suffix : List UInt8) (other : Source), other.pending = source.pending.take n ++ suffix →
        read options other = .ok (d, n)) ∧
      ∀ other : Source, other.pending <+: source.pending.take n →
        other.pending ≠ source.pending.take n → read options other = .error .unexpectedEnd := by
  rcases denotes_of_read h with ⟨wire, rest, trusted, hsource, rfl, hlimit, hd⟩
  have hfour : (wire ++ rest).take 4 = wire.take 4 :=
    List.take_append_of_le_length (four_le_length hd)
  rw [hsource, List.take_left, hfour]
  refine ⟨?_, size_of_denotes hd, ?_, ?_⟩
  · rw [List.length_append]
    exact Nat.le_add_right _ _
  · intro suffix other hother
    exact read_of_denotes hd hlimit hother
  · intro other hbegins hne
    exact read_of_short hd hlimit hbegins hne

/-- A text whose last character has two bytes, in a document before another byte: without
    the byte it is read as well, and broken off within the character it is not. -/
theorem character_broken_off :
    let bytes : List UInt8 := [15, 0, 0, 0, 2, 97, 0, 3, 0, 0, 0, 195, 169, 0, 0, 7]
    let d : Document := ⟨[("a", .string "é")]⟩
    read {} (.ofBytes bytes) = .ok (d, 15) ∧
      (∀ other : Source, other.pending = bytes.take 15 → read {} other = .ok (d, 15)) ∧
      ∀ other : Source, other.pending = bytes.take 12 →
        read {} other = .error .unexpectedEnd := by
  intro bytes d
  have hread : read {} (.ofBytes bytes) = .ok (d, 15) :=
    eq_ok_of_equals (by decide) (by decide +kernel)
  rcases read_delimited hread with ⟨_, _, hwhole, hshort⟩
  refine ⟨hread, fun other hother => hwhole [] other hother, fun other hother => ?_⟩
  refine hshort other ?_ ?_
  · rw [hother]
    exact List.take_prefix_take_left (by decide)
  · rw [hother]
    decide

end Document

end DocumentMapper
