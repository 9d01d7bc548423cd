import DocumentMapper.Proofs.Value.Document
import DocumentMapper.Proofs.Value.Equality
import DocumentMapper.Proofs.Wire.Arrival
import DocumentMapper.Proofs.Wire.Denotation
import Mathlib.Data.List.TakeWhile

/-!
# What a reader accepts

If a reader returns a document, the bytes it took stand for that document, whatever the
bytes are and however they arrived. `Decoder.Ensures` says of a decoder what the bytes it
takes have to do with the result, if there is one, and the rules for it follow the
decoders: what the first of two takes and returns may be used for the second.

A decoder that takes bytes moves on by their number. This is part of `Ensures`, since a
reader of a document compares places: that it stopped where its size says is known to it
only by the places, and the grammar wants it of the bytes.

Fields are inserted one after another into what was read so far, and a name may stand
twice. So the grammar lists them all, and what is returned is the fold over the list.

## Main definitions

* `Decoder.Ensures`: A decoder takes and returns only what is related.
* `DocumentStands`, `FieldsStand`, `ValueStands`: What was taken stands for the result.

## Theorems

* `ensures_bind`: Decoders in sequence.
* `ensures_key`, `ensures_text`, `ensures_binary`: Names, texts and binaries.
* `ensures_document`, `ensures_fields`, `ensures_value`: One step of the reader.
* `ensures_within`: Documents, fields and values.
* `denotes_of_read`: What was read stands for the document.
-/

namespace DocumentMapper

/-- The byte that announces a form is its tag. -/
theorem ElementType.tag_of_ofTag? {b : UInt8} {type : ElementType}
    (h : ofTag? b.toInt8 = some type) : type.tag.toUInt8 = b := by
  have hfound := List.find?_some h
  rw [of_decide_eq_true hfound, UInt8.toUInt8_toInt8]

namespace Decoder

variable {α β : Type}

/-- If the decoder, standing at `start`, returns a value, it moved on by the bytes it took,
    and these are related to the value. -/
def Ensures (m : Decoder α) (start : Nat) (Q : List UInt8 → α → Prop) : Prop :=
  ∀ (source final : Source) (place : Nat) (a : α),
    m.run ⟨source, start⟩ = .ok (a, ⟨final, place⟩) →
      ∃ bytes, source.pending = bytes ++ final.pending ∧ place = start + bytes.length ∧ Q bytes a

section Rules

variable {start : Nat} {P Q : List UInt8 → α → Prop} {R : List UInt8 → β → Prop}

theorem Ensures.mono {m : Decoder α} (h : Ensures m start P)
    (hQ : ∀ bytes a, P bytes a → Q bytes a) :
    Ensures m start Q := by
  intro source final place a hrun
  rcases h source final place a hrun with ⟨bytes, hpending, hplace, hP⟩
  exact ⟨bytes, hpending, hplace, hQ bytes a hP⟩

theorem ensures_pure {a : α} (h : Q [] a) : Ensures (pure a) start Q := by
  intro source final place a' hrun
  cases hrun
  exact ⟨[], rfl, rfl, h⟩

theorem ensures_throw {e : CodecError} : Ensures (throw e) start Q := by
  intro source final place a hrun
  cases hrun

/-- What the first decoder took and returned may be used for the second one. -/
theorem ensures_bind {m : Decoder α} {f : α → Decoder β} (hm : Ensures m start P)
    (hf : ∀ xs a, P xs a → Ensures (f a) (start + xs.length) (fun ys b => R (xs ++ ys) b)) :
    Ensures (m >>= f) start R := by
  intro source final place b hrun
  rw [StateT.run_bind] at hrun
  cases hfirst : m.run ⟨source, start⟩ with
  | error e =>
      rw [hfirst] at hrun
      cases hrun
  | ok outcome =>
      rcases outcome with ⟨a, middle, between⟩
      rw [hfirst] at hrun
      rcases hm source middle between a hfirst with ⟨xs, hxs, rfl, hP⟩
      rcases hf xs a hP middle final place b hrun with ⟨ys, hys, hplace, hR⟩
      refine ⟨xs ++ ys, ?_, ?_, hR⟩
      · rw [hxs, hys, List.append_assoc]
      · rw [hplace, List.length_append, Nat.add_assoc]

/-- A last step that computes the result. -/
theorem ensures_map {m : Decoder α} {f : α → β} (hm : Ensures m start P)
    (h : ∀ bytes a, P bytes a → R bytes (f a)) : Ensures (do return f (← m)) start R := by
  refine ensures_bind hm fun xs a hP => ensures_pure ?_
  rw [List.append_nil]
  exact h xs a hP

/-- What is not refused. -/
theorem ensures_refuse {p : Prop} [Decidable p] {e : CodecError} {f : α → Decoder β}
    {m : Decoder β} (hm : ¬p → Ensures m start R) :
    Ensures (if p then throw e >>= f else m) start R := by
  by_cases hp : p
  · rw [if_pos hp]
    exact ensures_bind (P := fun _ _ => False) ensures_throw fun _ _ hfalse => hfalse.elim
  · rw [if_neg hp]
    exact hm hp

/-- The place is known, and no bytes are taken to know it. -/
theorem ensures_position_bind {f : Nat → Decoder β} (hf : Ensures (f start) start R) :
    Ensures (position >>= f) start R := by
  intro source final place b hrun
  exact hf source final place b hrun

end Rules

/-! ### Bytes and numbers -/

variable (start : Nat)

theorem ensures_bytes (count : Nat) :
    Ensures (bytes count) start fun taken a => taken.length = count ∧ a = taken := by
  intro source final place a hrun
  rcases source.take_eq count with ⟨next, htake, hnext⟩
  unfold bytes at hrun
  simp only [StateT.run_bind, StateT.run_get, pure_bind, htake] at hrun
  by_cases hshort : (source.pending.take count).length < count
  · rw [if_pos hshort] at hrun
    cases hrun
  · rw [if_neg hshort] at hrun
    cases hrun
    have hlength : (source.pending.take count).length = count := by
      rw [List.length_take] at hshort ⊢
      omega
    refine ⟨source.pending.take count, ?_, ?_, hlength, rfl⟩
    · rw [hnext, List.take_append_drop]
    · rw [hlength]

theorem ensures_byte : Ensures byte start fun taken b => taken = [b] := by
  refine ensures_map (ensures_bytes start 1) ?_
  rintro taken _ ⟨hlength, rfl⟩
  rcases List.length_eq_one_iff.mp hlength with ⟨b, rfl⟩
  rfl

theorem ensures_int32 :
    Ensures int32 start fun taken n => taken.length = 4 ∧ n = LittleEndian.toInt32 taken := by
  refine ensures_map (ensures_bytes start 4) ?_
  rintro taken _ ⟨hlength, rfl⟩
  exact ⟨hlength, rfl⟩

theorem ensures_int64 :
    Ensures int64 start fun taken n => taken.length = 8 ∧ n = LittleEndian.toInt64 taken := by
  refine ensures_map (ensures_bytes start 8) ?_
  rintro taken _ ⟨hlength, rfl⟩
  exact ⟨hlength, rfl⟩

/-! ### Names and texts -/

/-- Bytes that are decoded without a rest are those of the text. -/
theorem encode_of_cut? {bytes part : List UInt8} {s : String} (h : Utf8.cut? bytes = some (s, part))
    (hpart : part.isEmpty = true) : bytes = Utf8.encode s := by
  rw [(Utf8.cut?_eq_some.mp h).1, List.isEmpty_iff.mp hpart, List.append_nil]

/-- What is before the first zero byte. -/
theorem takeWhile_dropWhile_nul {bytes rest : List UInt8} {b : UInt8}
    (h : bytes.dropWhile (· != 0) = b :: rest) :
    0 ∉ bytes.takeWhile (· != 0) ∧ bytes = (bytes.takeWhile (· != 0) ++ [0]) ++ rest := by
  constructor
  · intro hmem
    exact absurd (List.mem_takeWhile_imp hmem) (by decide)
  · have hb := List.head_dropWhile_not (· != (0 : UInt8)) (by rw [h]; exact List.cons_ne_nil b rest)
    simp only [h, List.head_cons, bne_eq_false_iff_eq] at hb
    subst hb
    rw [List.append_assoc, List.singleton_append, ← h, List.takeWhile_append_dropWhile]

theorem keyOutcome_eq_ok {pending : List UInt8} {start : Nat} {s : String} {c : Cursor}
    (h : keyOutcome [] pending "" start = .ok (s, c)) :
    NulFree s ∧ pending = (Utf8.encode s ++ [0]) ++ c.source.pending ∧
      c.position = start + (Utf8.encode s ++ [0]).length := by
  unfold keyOutcome at h
  rw [List.nil_append] at h
  -- A name needs its zero byte: without one the bytes have ended, and that is an error.
  cases hdrop : pending.dropWhile (· != 0) with
  | nil =>
      rw [hdrop] at h
      cases h
  | cons b rest =>
      rcases takeWhile_dropWhile_nul hdrop with ⟨hnulFree, hpending⟩
      rw [hdrop] at h
      generalize pending.takeWhile (· != 0) = name at h hnulFree hpending
      cases hcut : Utf8.cut? name with
      | none =>
          rw [hcut] at h
          cases h
      | some cut =>
          rcases cut with ⟨text, part⟩
          rw [hcut] at h
          dsimp only at h
          by_cases hpart : part.isEmpty = true
          · rw [if_pos hpart, String.empty_append] at h
            cases h
            rw [encode_of_cut? hcut hpart] at hnulFree hpending ⊢
            exact ⟨hnulFree, hpending, by rw [List.length_append]; rfl⟩
          · rw [if_neg hpart] at h
            cases h

theorem textOutcome_eq_ok {pending : List UInt8} {missing start : Nat} {s : String} {c : Cursor}
    (h : textOutcome [] pending missing "" start = .ok (s, c)) :
    (Utf8.encode s).length = missing ∧ pending = Utf8.encode s ++ c.source.pending ∧
      c.position = start + missing := by
  unfold textOutcome at h
  rw [List.nil_append] at h
  cases hcut : Utf8.cut? (pending.take missing) with
  | none =>
      rw [hcut] at h
      cases h
  | some cut =>
      rcases cut with ⟨text, part⟩
      rw [hcut] at h
      dsimp only at h
      -- Neither an end that comes too soon nor a last character cut short is a success.
      by_cases hshort : pending.length < missing
      · rw [if_pos hshort] at h
        cases h
      · rw [if_neg hshort] at h
        by_cases hpart : part.isEmpty = true
        · rw [if_pos hpart, String.empty_append] at h
          cases h
          have hbytes := encode_of_cut? hcut hpart
          refine ⟨?_, ?_, rfl⟩
          · rw [← hbytes, List.length_take]
            omega
          · rw [← hbytes]
            exact (List.take_append_drop missing pending).symm
        · rw [if_neg hpart] at h
          cases h

/-- A name takes its bytes and the zero byte after them. -/
theorem ensures_key (options : CodecOptions) :
    Ensures (key options) start fun taken s => NulFree s ∧ taken = Utf8.encode s ++ [0] := by
  intro source final place s hrun
  have hmatches := key_matches options ⟨source, start⟩
  rw [hrun] at hmatches
  generalize houtcome : keyOutcome [] source.pending "" start = outcome at hmatches
  cases hmatches with
  | ok alike =>
      rcases keyOutcome_eq_ok houtcome with ⟨hs, hpending, hposition⟩
      rw [← alike.pending] at hpending
      exact ⟨_, hpending, alike.position.trans hposition, hs, rfl⟩

/-- A text of given length takes that many bytes, and they are those of the text. -/
theorem ensures_textOfLength (options : CodecOptions) (length : Nat) :
    Ensures (textOfLength options length) start fun taken s =>
      taken.length = length ∧ taken = Utf8.encode s := by
  intro source final place s hrun
  have hmatches := textOfLength_matches options length ⟨source, start⟩
  rw [hrun] at hmatches
  generalize houtcome : textOutcome [] source.pending length "" start = outcome at hmatches
  cases hmatches with
  | ok alike =>
      rcases textOutcome_eq_ok houtcome with ⟨hlength, hpending, hposition⟩
      rw [← alike.pending] at hpending
      rw [← hlength] at hposition
      exact ⟨_, hpending, alike.position.trans hposition, hlength, rfl⟩

/-- A text takes a length, its bytes, and a byte that may be any. -/
theorem ensures_text (options : CodecOptions) :
    Ensures (text options) start fun taken s => ∃ trusted, TextDenotes taken s trusted := by
  unfold text
  refine ensures_bind (ensures_int32 start) ?_
  rintro lead n ⟨hwidth, rfl⟩
  refine ensures_refuse fun hlength => ?_
  refine ensures_bind (ensures_textOfLength _ options _) ?_
  rintro body s ⟨hbody, rfl⟩
  refine ensures_map (ensures_byte _) ?_
  rintro _ b rfl
  -- The length counts the zero byte at the end, so it is positive; that is what the test is for.
  refine ⟨_, .mk ⟨hwidth, ?_⟩⟩
  rw [Int32.lt_iff_toInt_lt, Int32.toInt_one] at hlength
  rw [List.length_append, hbody, List.length_singleton]
  omega

/-! ### Binaries and other scalars -/

theorem ensures_binaryLength :
    Ensures binaryLength start fun taken n => Announces taken n := by
  unfold binaryLength
  refine ensures_bind (ensures_int32 start) ?_
  rintro lead _ ⟨hwidth, rfl⟩
  refine ensures_refuse fun hlength => ensures_pure ?_
  rw [Int32.lt_iff_toInt_lt, Int32.toInt_zero] at hlength
  rw [List.append_nil]
  exact ⟨hwidth, by omega⟩

theorem ensures_binary :
    Ensures binary start fun taken v => ∃ trusted, ScalarDenotes .binary taken v trusted := by
  unfold binary
  refine ensures_bind (ensures_binaryLength start) fun lead n hlead => ?_
  refine ensures_bind (ensures_byte _) ?_
  rintro _ code rfl
  -- Only general data repeat their length within themselves.
  by_cases hgeneral : code = BinarySubtype.general.code
  · subst hgeneral
    refine ensures_bind (ensures_binaryLength _) fun inner m hinner => ?_
    refine ensures_map (ensures_bytes _ m) ?_
    rintro payload _ ⟨rfl, rfl⟩
    exact ⟨_, .generalBinary hlead hinner⟩
  · dsimp only
    rw [if_neg (BinarySubtype.ofCode_ne_general hgeneral)]
    refine ensures_bind (P := fun taken m => taken = [] ∧ m = n) (ensures_pure ⟨rfl, rfl⟩) ?_
    rintro _ _ ⟨rfl, rfl⟩
    refine ensures_map (ensures_bytes _ _) ?_
    rintro payload _ ⟨hpayload, rfl⟩
    rw [← hpayload] at hlead
    exact ⟨_, .binary hgeneral hlead⟩

theorem ensures_instant :
    Ensures instant start fun taken v => ScalarDenotes .instant taken v [] := by
  unfold instant
  refine ensures_bind (ensures_int64 start) ?_
  rintro taken _ ⟨hwidth, rfl⟩
  cases hmillis : Instant.ofMillis? (LittleEndian.toInt64 taken).toInt with
  | none => exact ensures_throw
  | some t =>
      refine ensures_pure ?_
      rw [List.append_nil]
      exact .instant hwidth hmillis

theorem ensures_objectId :
    Ensures objectId start fun taken v => ScalarDenotes .objectId taken v [] := by
  unfold objectId
  refine ensures_bind (ensures_bytes start 12) ?_
  rintro _ taken ⟨_, rfl⟩
  cases hid : vectorOfList? 12 taken with
  | none => exact ensures_throw
  | some id =>
      refine ensures_pure ?_
      rw [List.append_nil]
      exact .objectId hid

/-! ### Documents -/

/-- What a document takes stands for it, and is within the limit if nothing stands before. -/
def DocumentStands (options : CodecOptions) (start : Nat) (taken : List UInt8) (d : Document) :
    Prop :=
  (start = 0 → taken.length ≤ options.maxMessageSize) ∧ ∃ trusted, DocumentDenotes taken d trusted

/-- What fields take stands for fields that are inserted one after another. -/
def FieldsStand (d : Document) (taken : List UInt8) (d' : Document) : Prop :=
  ∃ fields trusted, FieldsDenote taken fields trusted ∧ d' = d.merge ⟨fields⟩

def ValueStands (type : ElementType) (taken : List UInt8) (v : Value) : Prop :=
  ∃ trusted, ValueDenotes type taken v trusted

section Steps

variable {options : CodecOptions} {steps : Nat}

theorem ensures_document
    (hfields : ∀ start place size d,
      Ensures (fieldsWithin options steps start size d) place (FieldsStand d)) :
    Ensures (documentWithin options (steps + 1)) start (DocumentStands options start) := by
  rw [documentWithin]
  refine ensures_position_bind ?_
  refine ensures_bind (ensures_int32 start) ?_
  rintro lead _ ⟨hwidth, rfl⟩
  refine ensures_refuse fun hshort => ensures_refuse fun hlimit => ?_
  refine ensures_bind (hfields _ _ _ _) ?_
  rintro body _ ⟨fields, trusted, hdenote, rfl⟩
  refine ensures_bind (ensures_byte _) ?_
  rintro _ terminator rfl
  refine ensures_refuse fun hterminator => ensures_position_bind ?_
  refine ensures_refuse fun hsize => ensures_pure ?_
  -- The places say how many bytes there are, and the size is held against them.
  rw [Decidable.not_not.mp hterminator, List.append_nil]
  have hlength : (lead ++ (body ++ [0])).length = (LittleEndian.toInt32 lead).toInt.toNat := by
    simp only [List.length_append, List.length_singleton] at hsize ⊢
    omega
  have hpos : 0 < (lead ++ (body ++ [0])).length := by
    rw [List.length_append, hwidth]
    omega
  refine ⟨?_, trusted, ?_⟩
  · rintro rfl
    rw [hlength]
    simpa using hlimit
  · rw [Document.empty_merge]
    refine .mk ⟨hwidth, ?_⟩ hdenote
    omega

theorem ensures_fields {place size : Nat} {d : Document}
    (hvalue : ∀ start type, Ensures (valueWithin options steps type) start (ValueStands type))
    (hfields : ∀ start place size d,
      Ensures (fieldsWithin options steps start size d) place (FieldsStand d)) :
    Ensures (fieldsWithin options (steps + 1) start size d) place (FieldsStand d) := by
  rw [fieldsWithin]
  refine ensures_position_bind ?_
  by_cases hmore : place - start + 1 < size
  · rw [if_pos hmore]
    refine ensures_bind (ensures_byte _) ?_
    rintro _ tag rfl
    refine ensures_bind (ensures_key _ options) ?_
    rintro _ name ⟨hname, rfl⟩
    cases htype : ElementType.ofTag? tag.toInt8 with
    | none => exact ensures_throw
    | some type =>
        refine ensures_bind (hvalue _ type) ?_
        rintro value v ⟨first, hv⟩
        refine (hfields _ _ _ _).mono ?_
        rintro rest _ ⟨fields, more, hrest, rfl⟩
        refine ⟨(name, v) :: fields, first ++ more, ?_, rfl⟩
        rw [← ElementType.tag_of_ofTag? htype]
        exact .cons hname hv hrest
  · rw [if_neg hmore]
    exact ensures_pure ⟨[], [], .nil, rfl⟩

theorem ensures_codeWithScope
    (hdocument : ∀ start,
      Ensures (documentWithin options steps) start (DocumentStands options start)) :
    Ensures (valueWithin options (steps + 1) .codeWithScope) start
      (ValueStands .codeWithScope) := by
  rw [valueWithin]
  refine ensures_position_bind ?_
  refine ensures_bind (ensures_int32 start) ?_
  rintro lead _ ⟨hwidth, rfl⟩
  refine ensures_bind (ensures_text _ options) ?_
  rintro source s ⟨first, hsource⟩
  refine ensures_bind (hdocument _) ?_
  rintro scope d ⟨_, more, hscope⟩
  refine ensures_position_bind ?_
  refine ensures_refuse fun hsize => ensures_pure ?_
  rw [List.append_nil]
  refine ⟨_, .codeWithScope ⟨hwidth, ?_⟩ hsource hscope⟩
  -- The size is not used to find the end; it is compared with what has been read.
  rw [Decidable.not_not.mp hsize, List.length_append, List.length_append]
  omega

theorem ensures_value
    (hdocument : ∀ start,
      Ensures (documentWithin options steps) start (DocumentStands options start))
    (type : ElementType) :
    Ensures (valueWithin options (steps + 1) type) start (ValueStands type) := by
  cases type with
  | null => exact ensures_pure ⟨_, .scalar .null⟩
  | undefined => exact ensures_pure ⟨_, .scalar .undefined⟩
  | minKey => exact ensures_pure ⟨_, .scalar .minKey⟩
  | maxKey => exact ensures_pure ⟨_, .scalar .maxKey⟩
  | boolean =>
      refine ensures_map (ensures_byte start) ?_
      rintro _ b rfl
      exact ⟨_, .scalar (.boolean b)⟩
  | int32 =>
      refine ensures_map (ensures_int32 start) ?_
      rintro taken _ ⟨hwidth, rfl⟩
      exact ⟨_, .scalar (.int32 hwidth)⟩
  | int64 =>
      refine ensures_map (ensures_int64 start) ?_
      rintro taken _ ⟨hwidth, rfl⟩
      exact ⟨_, .scalar (.int64 hwidth)⟩
  | double =>
      refine ensures_map (ensures_bytes start 8) ?_
      rintro taken _ ⟨hwidth, rfl⟩
      exact ⟨_, .scalar (.double hwidth)⟩
  | instant => exact (ensures_instant start).mono fun _ _ h => ⟨_, .scalar h⟩
  | objectId => exact (ensures_objectId start).mono fun _ _ h => ⟨_, .scalar h⟩
  | string =>
      refine ensures_map (ensures_text start options) ?_
      rintro _ _ ⟨_, htext⟩
      exact ⟨_, .scalar (.string htext)⟩
  | code =>
      refine ensures_map (ensures_text start options) ?_
      rintro _ _ ⟨_, htext⟩
      exact ⟨_, .scalar (.code htext)⟩
  | document =>
      refine ensures_map (hdocument start) ?_
      rintro _ _ ⟨_, _, hinner⟩
      exact ⟨_, .document hinner⟩
  | array =>
      refine ensures_map (hdocument start) ?_
      rintro _ _ ⟨_, _, hinner⟩
      exact ⟨_, .array hinner⟩
  | pattern =>
      refine ensures_bind (ensures_key start options) ?_
      rintro _ source ⟨hsource, rfl⟩
      refine ensures_map (ensures_key _ options) ?_
      rintro _ flags ⟨hflags, rfl⟩
      exact ⟨_, .scalar (.pattern (p := ⟨source, flags⟩) hsource hflags)⟩
  | codeWithScope => exact ensures_codeWithScope start hdocument
  | binary =>
      refine (ensures_binary start).mono ?_
      rintro _ _ ⟨_, hscalar⟩
      exact ⟨_, .scalar hscalar⟩

end Steps

/-- The induction is on the steps. Of the fields those read so far are given, and of the
    place where their document began only that it lies behind. -/
theorem ensures_within (options : CodecOptions) (steps : Nat) :
    (∀ start, Ensures (documentWithin options steps) start (DocumentStands options start)) ∧
      (∀ start place size d,
        Ensures (fieldsWithin options steps start size d) place (FieldsStand d)) ∧
      ∀ start type, Ensures (valueWithin options steps type) start (ValueStands type) := by
  induction steps with
  | zero =>
      exact ⟨fun _ => ensures_throw, fun _ _ _ _ => ensures_throw, fun _ _ => ensures_throw⟩
  | succ steps ih =>
      rcases ih with ⟨hdocument, hfields, hvalue⟩
      exact ⟨fun start => ensures_document start hfields,
        fun start _ _ _ => ensures_fields start hvalue hfields,
        fun start => ensures_value start hdocument⟩

end Decoder

/-- What was read begins the bytes that came, is within the limit, and stands for the
    document. -/
theorem Document.denotes_of_read {options : CodecOptions} {source : Source} {d : Document} {n : Nat}
    (h : read options source = .ok (d, n)) :
    ∃ wire rest trusted, source.pending = wire ++ rest ∧ wire.length = n ∧
      n ≤ options.maxMessageSize ∧ DocumentDenotes wire d trusted := by
  unfold read at h
  cases hrun : (Decoder.message options).run ⟨source, 0⟩ with
  | error e =>
      rw [hrun] at h
      cases h
  | ok outcome =>
      rcases outcome with ⟨d', final, place⟩
      rw [hrun] at h
      cases h
      -- What holds for any number of steps holds for the number that a read is given.
      have hensures := (Decoder.ensures_within options (2 * source.pending.length + 3)).1 0
      rcases hensures source final place _ hrun with ⟨wire, hpending, hplace, hlimit, trusted, hd⟩
      rw [Nat.zero_add] at hplace
      refine ⟨wire, final.pending, trusted, hpending, hplace.symm, ?_, hd⟩
      exact hplace ▸ hlimit rfl

/-- What was read is framed exactly if what the reader goes by unchecked holds: the outer
    lengths of general bytes, and the zero bytes after texts. -/
theorem Document.framed_iff_trusted_of_read {options : CodecOptions} {source : Source}
    {d : Document} {n : Nat} (h : read options source = .ok (d, n)) :
    n ≤ source.pending.length ∧ ∃ trusted,
      DocumentDenotes (source.pending.take n) d trusted ∧
        (DocumentFrame (source.pending.take n) ↔ ∀ t ∈ trusted, t.Holds) := by
  rcases denotes_of_read h with ⟨wire, rest, trusted, hpending, rfl, _, hd⟩
  rw [hpending, List.take_left]
  refine ⟨?_, trusted, hd, frame_iff_trusted hd⟩
  rw [List.length_append]
  exact Nat.le_add_right _ _

/-- A list of a text and general bytes, with all lengths as they should be. -/
theorem Document.list_framed_iff_trusted :
    let bytes : List UInt8 :=
      [35, 0, 0, 0, 4, 108, 0, 27, 0, 0, 0, 2, 48, 0, 2, 0, 0, 0, 120, 0, 5, 49, 0, 5, 0, 0, 0, 0,
        1, 0, 0, 0, 9, 0, 0, 0]
    ∃ d, read {} (.ofBytes bytes) = .ok (d, 35) ∧ 35 ≤ bytes.length ∧ ∃ trusted,
      DocumentDenotes (bytes.take 35) d trusted ∧
        (DocumentFrame (bytes.take 35) ↔ ∀ t ∈ trusted, t.Holds) := by
  intro bytes
  have hread : read {} (.ofBytes bytes) =
      .ok (⟨[("l", .array [.string "x", .binary ⟨.general, [9]⟩])]⟩, 35) :=
    eq_ok_of_equals (by decide) (by decide +kernel)
  exact ⟨_, hread, framed_iff_trusted_of_read hread⟩

namespace Unchecked

/-- General bytes of which there are two, under an outer length of zero. -/
def outerLength : List UInt8 :=
  [19, 0, 0, 0, 5, 98, 0, 0, 0, 0, 0, 0, 2, 0, 0, 0, 1, 2, 0]

/-- An empty text before a byte that is not zero. -/
def textEnd : List UInt8 :=
  [13, 0, 0, 0, 2, 97, 0, 1, 0, 0, 0, 1, 0]

theorem outerLength_denotes :
    DocumentDenotes outerLength ⟨[("b", .binary ⟨.general, [1, 2]⟩)]⟩ [.outerLength 0 6] := by
  have houter : Announces [0, 0, 0, 0] 0 := ⟨rfl, by decide⟩
  have hinner : Announces [2, 0, 0, 0] [(1 : UInt8), 2].length := ⟨rfl, by decide⟩
  have hfields := FieldsDenote.cons (by decide : NulFree "b")
    (.scalar (.generalBinary houter hinner)) .nil
  have hbytes : outerLength = [19, 0, 0, 0] ++ ((ElementType.binary.tag.toUInt8 ::
      ((Utf8.encode "b" ++ [0]) ++ (([0, 0, 0, 0] ++ ([BinarySubtype.general.code] ++
        ([2, 0, 0, 0] ++ [1, 2]))) ++ []))) ++ [0]) := by
    decide
  rw [hbytes]
  exact .mk ⟨rfl, by decide⟩ hfields

theorem textEnd_denotes : DocumentDenotes textEnd ⟨[("a", .string "")]⟩ [.textEnd 1] := by
  have hlead : Announces [1, 0, 0, 0] (Utf8.encode "" ++ [1]).length := ⟨rfl, by decide⟩
  have hfields := FieldsDenote.cons (by decide : NulFree "a") (.scalar (.string (.mk hlead))) .nil
  have hbytes : textEnd = [13, 0, 0, 0] ++ ((ElementType.string.tag.toUInt8 ::
      ((Utf8.encode "a" ++ [0]) ++ (([1, 0, 0, 0] ++ (Utf8.encode "" ++ [1])) ++ []))) ++ [0]) := by
    decide
  rw [hbytes]
  exact .mk ⟨rfl, by decide⟩ hfields

/-- Both are accepted, and neither is framed. -/
theorem accepted_and_not_framed :
    (Document.decode outerLength {} = .ok (⟨[("b", .binary ⟨.general, [1, 2]⟩)]⟩, 19) ∧
      ¬DocumentFrame outerLength) ∧
    (Document.decode textEnd {} = .ok (⟨[("a", .string "")]⟩, 13) ∧ ¬DocumentFrame textEnd) := by
  refine ⟨⟨Document.eq_ok_of_equals (by decide) (by decide +kernel), ?_⟩,
    Document.eq_ok_of_equals (by decide) (by decide +kernel), ?_⟩
  · rw [frame_iff_trusted outerLength_denotes]
    decide
  · rw [frame_iff_trusted textEnd_denotes]
    decide

end Unchecked

end DocumentMapper
