import DocumentMapper.Proofs.Wire.Framing

/-!
# What bytes stand for

The reader takes more bytes than the writer gives: truth may be any byte but zero, a name
may stand twice, the items of a list may have any names, and there is a form that is only
read. What all these bytes stand for is said here without the reader, by a grammar that
carries the value along: `DocumentDenotes`, `FieldsDenote` and `ValueDenotes`.

Two things in the bytes are gone by and not held against anything. The outer length of
general bytes is replaced by the inner one, and the byte after a text is passed over. The
grammar leaves them free and keeps a list of them, so that it says at the same time
which bytes the reader trusts. Every other length has to be the number of the bytes it
covers. So bytes that stand for a document are framed, in the sense of `DocumentFrame`,
exactly if what was trusted holds (`frame_iff_trusted`). For that the grammar and the
frame have to cut the bytes at the same places: a length in front decides where a value
ends, in both of them, and the first zero byte decides where a name ends.

## Main definitions

* `Trusted`: A length or a byte that is gone by unchecked, and what it should be.
* `TextDenotes`, `ScalarDenotes`: Bytes that stand for a text or a scalar.
* `DocumentDenotes`, `FieldsDenote`, `ValueDenotes`: Bytes that stand for a document,
  for fields and for a value of some form.
* `Measured`: Bytes that begin with their length.

## Theorems

* `Measured.append_inj`: Where measured bytes end is decided by them.
* `valueFrame_iff`: The frame of a value by its form.
* `append_inj_of_frame`: A frame and a denoted value end at the same place.
* `scalar_frame_iff_trusted`, `frame_iff_trusted`: What is trusted decides the frame.
-/

namespace DocumentMapper

/-- What a reader goes by without holding it against the bytes. -/
inductive Trusted where
  /-- The outer length of general bytes, and the number of bytes behind it. -/
  | outerLength (declared covered : Nat)
  /-- The byte after a text. -/
  | textEnd (b : UInt8)
deriving DecidableEq, Repr

/-- What was trusted is as the format wants it. -/
def Trusted.Holds : Trusted → Prop
  | outerLength declared covered => declared = covered
  | textEnd b => b = 0

instance (t : Trusted) : Decidable t.Holds :=
  match t with
  | .outerLength declared covered => inferInstanceAs (Decidable (declared = covered))
  | .textEnd b => inferInstanceAs (Decidable (b = 0))

/-- The bytes of a text: a length, and as many bytes, of which all but the last are those
    of the text. -/
inductive TextDenotes : List UInt8 → String → List Trusted → Prop where
  | mk {lead : List UInt8} {s : String} {b : UInt8}
      (length : Announces lead (Utf8.encode s ++ [b]).length) :
      TextDenotes (lead ++ (Utf8.encode s ++ [b])) s [.textEnd b]

/-- The bytes of a value of a form that contains no other values. -/
inductive ScalarDenotes : ElementType → List UInt8 → Value → List Trusted → Prop where
  | null : ScalarDenotes .null [] .null []
  /-- The form that is only read. -/
  | undefined : ScalarDenotes .undefined [] .null []
  | minKey : ScalarDenotes .minKey [] .minKey []
  | maxKey : ScalarDenotes .maxKey [] .maxKey []
  | boolean (b : UInt8) : ScalarDenotes .boolean [b] (.boolean (b ≠ 0)) []
  | int32 {bytes : List UInt8} (width : bytes.length = 4) :
      ScalarDenotes .int32 bytes (.int32 (LittleEndian.toInt32 bytes)) []
  | int64 {bytes : List UInt8} (width : bytes.length = 8) :
      ScalarDenotes .int64 bytes (.int64 (LittleEndian.toInt64 bytes)) []
  | double {bytes : List UInt8} (width : bytes.length = 8) :
      ScalarDenotes .double bytes (.double ⟨UInt64.ofNat (LittleEndian.decode bytes)⟩) []
  | instant {bytes : List UInt8} {t : Instant} (width : bytes.length = 8)
      (millis : Instant.ofMillis? (LittleEndian.toInt64 bytes).toInt = some t) :
      ScalarDenotes .instant bytes (.instant t) []
  | objectId {bytes : List UInt8} {id : Vector UInt8 12}
      (digits : vectorOfList? 12 bytes = some id) :
      ScalarDenotes .objectId bytes (.objectId ⟨id⟩) []
  | string {bytes : List UInt8} {s : String} {trusted : List Trusted}
      (text : TextDenotes bytes s trusted) : ScalarDenotes .string bytes (.string s) trusted
  | code {bytes : List UInt8} {s : String} {trusted : List Trusted}
      (text : TextDenotes bytes s trusted) : ScalarDenotes .code bytes (.code s) trusted
  | pattern {p : Pattern} (source : NulFree p.source) (options : NulFree p.options) :
      ScalarDenotes .pattern ((Utf8.encode p.source ++ [0]) ++ (Utf8.encode p.options ++ [0]))
        (.pattern p) []
  | binary {lead payload : List UInt8} {code : UInt8}
      (special : code ≠ BinarySubtype.general.code) (length : Announces lead payload.length) :
      ScalarDenotes .binary (lead ++ ([code] ++ payload)) (.ofBinary ⟨.ofCode code, payload⟩) []
  /-- The inner length says how many bytes there are, whatever the outer one is. -/
  | generalBinary {outer inner payload : List UInt8} {declared : Nat}
      (outer_length : Announces outer declared) (inner_length : Announces inner payload.length) :
      ScalarDenotes .binary (outer ++ ([BinarySubtype.general.code] ++ (inner ++ payload)))
        (.binary ⟨.general, payload⟩) [.outerLength declared (inner ++ payload).length]

mutual

/-- The bytes of a document: a length that covers all of them, fields that are inserted
    one after another, and a zero byte. -/
inductive DocumentDenotes : List UInt8 → Document → List Trusted → Prop where
  | mk {lead body : List UInt8} {fields : List (String × Value)} {trusted : List Trusted}
      (length : Announces lead (lead ++ (body ++ [0])).length)
      (denotes : FieldsDenote body fields trusted) :
      DocumentDenotes (lead ++ (body ++ [0])) (.ofList fields) trusted

/-- The bytes of fields: for each a tag, a name with a zero byte, and a value. -/
inductive FieldsDenote : List UInt8 → List (String × Value) → List Trusted → Prop where
  | nil : FieldsDenote [] [] []
  | cons {type : ElementType} {name : String} {value rest : List UInt8} {v : Value}
      {fields : List (String × Value)} {first more : List Trusted} (nulFree : NulFree name)
      (valueDenotes : ValueDenotes type value v first)
      (restDenote : FieldsDenote rest fields more) :
      FieldsDenote (type.tag.toUInt8 :: ((Utf8.encode name ++ [0]) ++ (value ++ rest)))
        ((name, v) :: fields) (first ++ more)

/-- The bytes of a value of some form, without its tag and name. -/
inductive ValueDenotes : ElementType → List UInt8 → Value → List Trusted → Prop where
  | scalar {type : ElementType} {bytes : List UInt8} {v : Value} {trusted : List Trusted}
      (denotes : ScalarDenotes type bytes v trusted) : ValueDenotes type bytes v trusted
  | document {bytes : List UInt8} {d : Document} {trusted : List Trusted}
      (denotes : DocumentDenotes bytes d trusted) :
      ValueDenotes .document bytes (.document d) trusted
  /-- The names of the items are dropped. -/
  | array {bytes : List UInt8} {d : Document} {trusted : List Trusted}
      (denotes : DocumentDenotes bytes d trusted) :
      ValueDenotes .array bytes (.array d.values) trusted
  | codeWithScope {lead source scope : List UInt8} {s : String} {d : Document}
      {first more : List Trusted} (length : Announces lead (lead ++ (source ++ scope)).length)
      (sourceDenotes : TextDenotes source s first) (scopeDenotes : DocumentDenotes scope d more) :
      ValueDenotes .codeWithScope (lead ++ (source ++ scope)) (.codeWithScope s d) (first ++ more)

end

/-! ### Where bytes end -/

/-- Bytes that begin with a length, which counts what follows it and `more` of itself. -/
def Measured (more : Nat) (bytes : List UInt8) : Prop :=
  ∃ lead rest, bytes = lead ++ rest ∧ Announces lead (rest.length + more)

theorem Announces.length_eq {lead : List UInt8} {m n : Nat} (hm : Announces lead m)
    (hn : Announces lead n) : m = n :=
  Int.ofNat.inj (hm.value.symm.trans hn.value)

/-- Lengths that begin the same bytes are the same, and so is what follows them. -/
theorem Announces.append_inj {lead lead' xs ys : List UInt8} {m n : Nat} (hm : Announces lead m)
    (hn : Announces lead' n) (h : lead ++ xs = lead' ++ ys) : lead = lead' ∧ m = n ∧ xs = ys := by
  rcases List.append_inj h (hm.width.trans hn.width.symm) with ⟨rfl, hrest⟩
  exact ⟨rfl, hm.length_eq hn, hrest⟩

theorem Measured.append_inj {more : Nat} {xs ys rest rest' : List UInt8} (hx : Measured more xs)
    (hy : Measured more ys) (h : xs ++ rest = ys ++ rest') : xs = ys ∧ rest = rest' := by
  rcases hx with ⟨lead, tail, rfl, hlead⟩
  rcases hy with ⟨lead', tail', rfl, hlead'⟩
  rw [List.append_assoc, List.append_assoc] at h
  rcases hlead.append_inj hlead' h with ⟨rfl, hlength, htails⟩
  rcases List.append_inj htails (by omega) with ⟨rfl, hrest⟩
  exact ⟨rfl, hrest⟩

/-- Of two names that begin the same bytes, the one is not longer than the other. -/
theorem gap_eq_nil {gap rest rest' : List UInt8} (hgap : 0 ∉ gap)
    (h : 0 :: rest = gap ++ 0 :: rest') :
    gap = [] := by
  cases gap with
  | nil => rfl
  | cons b gap =>
      rw [(List.cons.inj h).1] at hgap
      exact absurd List.mem_cons_self hgap

/-- A name ends with the first zero byte. -/
theorem append_nul_inj {xs ys rest rest' : List UInt8} (hx : 0 ∉ xs) (hy : 0 ∉ ys)
    (h : (xs ++ [0]) ++ rest = (ys ++ [0]) ++ rest') : xs = ys ∧ rest = rest' := by
  rw [List.append_assoc, List.append_assoc, List.singleton_append, List.singleton_append] at h
  rcases List.append_eq_append_iff.mp h with ⟨gap, rfl, hgap⟩ | ⟨gap, rfl, hgap⟩
  · have hnil := gap_eq_nil (fun hmem => hy (List.mem_append_right xs hmem)) hgap
    subst hnil
    exact ⟨(List.append_nil xs).symm, (List.cons.inj hgap).2⟩
  · have hnil := gap_eq_nil (fun hmem => hx (List.mem_append_right ys hmem)) hgap
    subst hnil
    exact ⟨List.append_nil ys, (List.cons.inj hgap).2.symm⟩

theorem TextFrame.measured {bytes : List UInt8} (h : TextFrame bytes) : Measured 0 bytes := by
  rcases h with ⟨length⟩
  exact ⟨_, _, rfl, length⟩

theorem TextDenotes.measured {bytes : List UInt8} {s : String} {trusted : List Trusted}
    (h : TextDenotes bytes s trusted) : Measured 0 bytes := by
  rcases h with ⟨length⟩
  exact ⟨_, _, rfl, length⟩

/-- A length that covers itself. -/
theorem Measured.of_whole {lead rest : List UInt8} (h : Announces lead (lead ++ rest).length) :
    Measured 4 (lead ++ rest) := by
  refine ⟨lead, rest, rfl, h.width, ?_⟩
  rw [h.value, List.length_append, h.width, Nat.add_comm]

theorem DocumentFrame.measured {bytes : List UInt8} (h : DocumentFrame bytes) :
    Measured 4 bytes := by
  cases h with
  | mk length _ => exact .of_whole length

theorem DocumentDenotes.measured {bytes : List UInt8} {d : Document} {trusted : List Trusted}
    (h : DocumentDenotes bytes d trusted) : Measured 4 bytes := by
  cases h with
  | mk length _ => exact .of_whole length

/-! ### Frames by their form -/

/-- The frame of a value, said of each form by itself. Both layouts of a binary have a
    length that covers all bytes behind the subtype. -/
def ElementType.Framed : ElementType → List UInt8 → Prop
  | .string, bytes | .code, bytes => TextFrame bytes
  | .document, bytes | .array, bytes => DocumentFrame bytes
  | .pattern, bytes => ∃ source options, 0 ∉ source ∧ 0 ∉ options ∧
      bytes = (source ++ [0]) ++ (options ++ [0])
  | .codeWithScope, bytes => ∃ lead source scope,
      Announces lead (lead ++ (source ++ scope)).length ∧ TextFrame source ∧
        DocumentFrame scope ∧ bytes = lead ++ (source ++ scope)
  | .binary, bytes => ∃ lead code rest, Announces lead rest.length ∧
      (code = BinarySubtype.general.code → Measured 0 rest) ∧ bytes = lead ++ ([code] ++ rest)
  | type, bytes => type.width? = some bytes.length

theorem valueFrame_iff {type : ElementType} {bytes : List UInt8} :
    ValueFrame type bytes ↔ type.Framed bytes := by
  constructor
  · intro h
    cases h with
    | fixed width => cases type <;> first | exact width | cases width
    | text form text => rcases form with rfl | rfl <;> exact text
    | pattern source options => exact ⟨_, _, source, options, rfl⟩
    | nested form document => rcases form with rfl | rfl <;> exact document
    | codeWithScope length source scope => exact ⟨_, _, _, length, source, scope, rfl⟩
    | binary special length =>
        exact ⟨_, _, _, length, fun hgeneral => absurd hgeneral special, rfl⟩
    | generalBinary outer_length inner_length =>
        exact ⟨_, _, _, outer_length, fun _ => ⟨_, _, rfl, inner_length⟩, rfl⟩
  · intro h
    cases type with
    | string => exact .text (.inl rfl) h
    | code => exact .text (.inr rfl) h
    | document => exact .nested (.inl rfl) h
    | array => exact .nested (.inr rfl) h
    | pattern =>
        rcases h with ⟨source, options, hsource, hoptions, rfl⟩
        exact .pattern hsource hoptions
    | codeWithScope =>
        rcases h with ⟨lead, source, scope, length, hsource, hscope, rfl⟩
        exact .codeWithScope length hsource hscope
    | binary =>
        rcases h with ⟨lead, code, rest, length, hmeasured, rfl⟩
        by_cases hgeneral : code = BinarySubtype.general.code
        · rcases hmeasured hgeneral with ⟨inner, payload, rfl, inner_length⟩
          rw [hgeneral]
          exact .generalBinary length inner_length
        · exact .binary hgeneral length
    | _ => exact .fixed h

/-- A frame ends where a value that the same bytes stand for ends. -/
theorem append_inj_of_frame {type : ElementType} {xs ys rest rest' : List UInt8} {v : Value}
    {trusted : List Trusted} (hx : ValueDenotes type xs v trusted) (hy : ValueFrame type ys)
    (h : xs ++ rest = ys ++ rest') : xs = ys ∧ rest = rest' := by
  have hframed := valueFrame_iff.mp hy
  cases hx with
  | document denotes => exact denotes.measured.append_inj (DocumentFrame.measured hframed) h
  | array denotes => exact denotes.measured.append_inj (DocumentFrame.measured hframed) h
  | codeWithScope length _ _ =>
      rcases hframed with ⟨lead, source, scope, length', _, _, rfl⟩
      exact (Measured.of_whole length).append_inj (.of_whole length') h
  | scalar denotes =>
      cases denotes with
      | string text => exact text.measured.append_inj (TextFrame.measured hframed) h
      | code text => exact text.measured.append_inj (TextFrame.measured hframed) h
      | pattern hsource hoptions =>
          rcases hframed with ⟨source, options, hsource', hoptions', rfl⟩
          rw [List.append_assoc, List.append_assoc (source ++ [0])] at h
          rcases append_nul_inj hsource hsource' h with ⟨hsame, hoptionsEq⟩
          rcases append_nul_inj hoptions hoptions' hoptionsEq with ⟨hsame', hrest⟩
          exact ⟨by rw [hsame, hsame'], hrest⟩
      | binary special length =>
          rcases hframed with ⟨lead, code, payload, length', _, rfl⟩
          rw [List.append_assoc, List.append_assoc lead] at h
          rcases length.append_inj length' h with ⟨rfl, hlength, hbytes⟩
          rcases List.cons.inj hbytes with ⟨rfl, hpayload⟩
          rcases List.append_inj hpayload hlength with ⟨rfl, hrest⟩
          exact ⟨rfl, hrest⟩
      | @generalBinary outer inner covered declared outer_length inner_length =>
          rcases hframed with ⟨lead, code, payload, length', hmeasured, rfl⟩
          rw [List.append_assoc, List.append_assoc lead] at h
          rcases outer_length.append_inj length' h with ⟨rfl, _, hbytes⟩
          rcases List.cons.inj hbytes with ⟨rfl, hinner⟩
          -- Of the two lengths the inner one decides.
          have hcovered : Measured 0 (inner ++ covered) := ⟨inner, covered, rfl, inner_length⟩
          rcases hcovered.append_inj (hmeasured rfl) hinner with ⟨rfl, hrest⟩
          exact ⟨rfl, hrest⟩
      | objectId digits =>
          exact List.append_inj h ((length_of_vectorOfList? digits).trans (Option.some.inj hframed))
      -- The other forms have a fixed width.
      | int32 width => exact List.append_inj h (width.trans (Option.some.inj hframed))
      | int64 width => exact List.append_inj h (width.trans (Option.some.inj hframed))
      | double width => exact List.append_inj h (width.trans (Option.some.inj hframed))
      | instant width _ => exact List.append_inj h (width.trans (Option.some.inj hframed))
      | boolean b => exact List.append_inj h (Option.some.inj hframed)
      | null => exact List.append_inj h (Option.some.inj hframed)
      | undefined => exact List.append_inj h (Option.some.inj hframed)
      | minKey => exact List.append_inj h (Option.some.inj hframed)
      | maxKey => exact List.append_inj h (Option.some.inj hframed)

/-! ### What is trusted -/

theorem text_frame_iff_trusted {bytes : List UInt8} {s : String} {trusted : List Trusted}
    (h : TextDenotes bytes s trusted) : TextFrame bytes ↔ ∀ t ∈ trusted, t.Holds := by
  rcases h with ⟨length⟩
  rename_i lead b
  rw [List.forall_mem_singleton]
  constructor
  · intro hframe
    generalize hbytes : lead ++ (Utf8.encode s ++ [b]) = bytes at hframe
    rcases hframe with ⟨length'⟩
    rcases length.append_inj length' hbytes with ⟨_, _, hbody⟩
    exact List.singleton_inj.mp (List.append_inj_right' hbody rfl)
  · rintro rfl
    exact .mk length

theorem scalar_frame_iff_trusted {type : ElementType} {bytes : List UInt8} {v : Value}
    {trusted : List Trusted} (h : ScalarDenotes type bytes v trusted) :
    ValueFrame type bytes ↔ ∀ t ∈ trusted, t.Holds := by
  rw [valueFrame_iff]
  cases h with
  | string text => exact text_frame_iff_trusted text
  | code text => exact text_frame_iff_trusted text
  | @generalBinary outer inner payload declared outer_length inner_length =>
      rw [List.forall_mem_singleton]
      constructor
      · rintro ⟨lead, code, rest, length, _, hbytes⟩
        rcases outer_length.append_inj length hbytes with ⟨_, hdeclared, hrest⟩
        rcases List.cons.inj hrest with ⟨_, rfl⟩
        exact hdeclared
      · rintro (rfl : declared = (inner ++ payload).length)
        exact ⟨_, _, _, outer_length, fun _ => ⟨inner, payload, rfl, inner_length⟩, rfl⟩
  | pattern source options =>
      exact iff_of_true ⟨_, _, source, options, rfl⟩ (List.forall_mem_nil _)
  | binary special length =>
      refine iff_of_true ?_ (List.forall_mem_nil _)
      exact ⟨_, _, _, length, fun hgeneral => absurd hgeneral special, rfl⟩
  -- Of the other forms nothing is trusted, and their width is fixed.
  | objectId digits =>
      exact iff_of_true (congrArg some (length_of_vectorOfList? digits).symm)
        (List.forall_mem_nil _)
  | int32 width => exact iff_of_true (congrArg some width.symm) (List.forall_mem_nil _)
  | int64 width => exact iff_of_true (congrArg some width.symm) (List.forall_mem_nil _)
  | double width => exact iff_of_true (congrArg some width.symm) (List.forall_mem_nil _)
  | instant width _ => exact iff_of_true (congrArg some width.symm) (List.forall_mem_nil _)
  | boolean b => exact iff_of_true rfl (List.forall_mem_nil _)
  | null => exact iff_of_true rfl (List.forall_mem_nil _)
  | undefined => exact iff_of_true rfl (List.forall_mem_nil _)
  | minKey => exact iff_of_true rfl (List.forall_mem_nil _)
  | maxKey => exact iff_of_true rfl (List.forall_mem_nil _)

/-- A tag stands for one form only. -/
theorem tag_injective {type type' : ElementType} (h : type.tag.toUInt8 = type'.tag.toUInt8) :
    type = type' := by
  have htag : type.tag = type'.tag := by
    rw [← Int8.toInt8_toUInt8 type.tag, h, Int8.toInt8_toUInt8]
  have hfound := ElementType.ofTag?_tag type
  rw [htag, ElementType.ofTag?_tag] at hfound
  exact (Option.some.inj hfound).symm

theorem documentFrame_iff {lead body : List UInt8}
    (length : Announces lead (lead ++ (body ++ [0])).length) :
    DocumentFrame (lead ++ (body ++ [0])) ↔ FieldsFrame body := by
  constructor
  · intro hframe
    generalize hbytes : lead ++ (body ++ [0]) = bytes at hframe
    cases hframe with
    | mk length' fields =>
        rcases length.append_inj length' hbytes with ⟨_, _, hbody⟩
        rw [List.append_inj_left' hbody rfl]
        exact fields
  · exact .mk length

theorem fieldsFrame_cons_iff {type : ElementType} {name : String} {value rest : List UInt8}
    {v : Value} {trusted : List Trusted} (nulFree : NulFree name)
    (denotes : ValueDenotes type value v trusted) :
    FieldsFrame (type.tag.toUInt8 :: ((Utf8.encode name ++ [0]) ++ (value ++ rest))) ↔
      ValueFrame type value ∧ FieldsFrame rest := by
  constructor
  · intro hframe
    generalize hbytes : type.tag.toUInt8 :: ((Utf8.encode name ++ [0]) ++ (value ++ rest)) = bytes
      at hframe
    cases hframe with
    | nil => cases hbytes
    | cons nulFree' valueFrame restFrame =>
        rcases List.cons.inj hbytes with ⟨htag, hname⟩
        -- A name ends at its first zero byte and a value where its frame does: both are read off.
        rcases append_nul_inj nulFree nulFree' hname with ⟨_, hvalue⟩
        rw [← tag_injective htag] at valueFrame
        rcases append_inj_of_frame denotes valueFrame hvalue with ⟨rfl, rfl⟩
        exact ⟨valueFrame, restFrame⟩
  · rintro ⟨valueFrame, restFrame⟩
    exact .cons nulFree valueFrame restFrame

theorem codeWithScope_frame_iff {lead source scope : List UInt8} {s : String}
    {trusted : List Trusted} (length : Announces lead (lead ++ (source ++ scope)).length)
    (denotes : TextDenotes source s trusted) :
    ValueFrame .codeWithScope (lead ++ (source ++ scope)) ↔
      TextFrame source ∧ DocumentFrame scope := by
  constructor
  · intro hframe
    rcases valueFrame_iff.mp hframe with ⟨lead', source', scope', length', hsource, hscope, hbytes⟩
    rcases length.append_inj length' hbytes with ⟨_, _, hparts⟩
    rcases denotes.measured.append_inj hsource.measured hparts with ⟨rfl, rfl⟩
    exact ⟨hsource, hscope⟩
  · rintro ⟨hsource, hscope⟩
    exact .codeWithScope length hsource hscope

mutual

/-- Bytes that stand for a document are framed exactly if what is trusted in them holds. -/
theorem frame_iff_trusted : ∀ {bytes : List UInt8} {d : Document} {trusted : List Trusted},
    DocumentDenotes bytes d trusted → (DocumentFrame bytes ↔ ∀ t ∈ trusted, t.Holds)
  | _, _, _, .mk length denotes =>
      (documentFrame_iff length).trans (fields_frame_iff_trusted denotes)

/-- The same for fields. -/
theorem fields_frame_iff_trusted :
    ∀ {bytes : List UInt8} {fields : List (String × Value)} {trusted : List Trusted},
      FieldsDenote bytes fields trusted → (FieldsFrame bytes ↔ ∀ t ∈ trusted, t.Holds)
  | _, _, _, .nil => iff_of_true .nil (List.forall_mem_nil _)
  | _, _, _, .cons nulFree valueDenotes restDenote => by
      rw [fieldsFrame_cons_iff nulFree valueDenotes, value_frame_iff_trusted valueDenotes,
        fields_frame_iff_trusted restDenote, List.forall_mem_append]

/-- The same for a value. -/
theorem value_frame_iff_trusted :
    ∀ {type : ElementType} {bytes : List UInt8} {v : Value} {trusted : List Trusted},
      ValueDenotes type bytes v trusted → (ValueFrame type bytes ↔ ∀ t ∈ trusted, t.Holds)
  | _, _, _, _, .scalar denotes => scalar_frame_iff_trusted denotes
  | _, _, _, _, .document denotes => valueFrame_iff.trans (frame_iff_trusted denotes)
  | _, _, _, _, .array denotes => valueFrame_iff.trans (frame_iff_trusted denotes)
  | _, _, _, _, .codeWithScope length sourceDenotes scopeDenotes => by
      rw [codeWithScope_frame_iff length sourceDenotes, text_frame_iff_trusted sourceDenotes,
        frame_iff_trusted scopeDenotes, List.forall_mem_append]

end

end DocumentMapper
