import Mathlib.Algebra.GroupWithZero.Nat
import DocumentMapper.Dump
import DocumentMapper.Proofs.Json.OneLine
import DocumentMapper.Proofs.Wire.RoundTrip

/-!
# What the dump command prints

The command reads one document after another from where the last one ended, so it finds
the documents of a stream because the bytes of each say where it ends. What it prints of a
stream is a line for each of the documents in front, in the style that was asked for
(`LineOf`), and what stands behind them is either nothing or the bytes it complains about,
with the place where they begin.

What is printed for a document is what was read of its bytes. A subtype that users chose
for a binary is read by its byte, and it is its byte that is shown, so the line is that of
the document all the same. Only where the byte is that of general bytes, or sixteen bytes
are taken for an identifier, is something else read (`mistaken_binaries`).

## Main definitions

* `Choice`: An argument that the command accepts.
* `chosen`: The settings that arguments choose.
* `LineOf`: What is printed for a document.
* `Fits`: A document, its bytes, and the limit.

## Theorems

* `settings_words`: The arguments are read one by one.
* `lineOf_iff`: There is one line for a document.
* `visible_of_lineOf`: A line of short output has no line ends.
* `documents_of_le`: Further steps change nothing.
* `documents_append`: The documents in front of a stream.
* `run_stream`: The whole command.
* `mistaken_binaries`: Binaries that look like something else.
-/

namespace DocumentMapper.Dump

/-! ### Arguments -/

/-- An argument that the command accepts: shorter output, or a limit in digits. -/
inductive Choice where
  | compact
  | maxSize (count : String) (max : Nat) (valid : byteCount? count = some max)

namespace Choice

/-- The words of an argument. -/
def words : Choice → List String
  | compact => ["--compact"]
  | maxSize count _ _ => ["--max-size", count]

def apply (s : Settings) : Choice → Settings
  | compact => { s with compact := true }
  | maxSize _ max _ => { s with options := { s.options with maxMessageSize := max } }

end Choice

/-- The settings that arguments choose. The last limit counts. -/
def chosen (choices : List Choice) : Settings :=
  choices.foldl Choice.apply {}

/-- The words of arguments are accepted, in any order and any number. -/
theorem settings_words (choices : List Choice) : ∀ s : Settings,
    settings s (choices.flatMap Choice.words) = .ok (choices.foldl Choice.apply s) := by
  induction choices with
  | nil => exact fun _ => rfl
  | cons choice choices ih =>
      intro s
      rw [List.flatMap_cons, List.foldl_cons]
      cases choice with
      | compact =>
          rw [Choice.words, List.singleton_append, settings]
          exact ih _
      | maxSize count max valid =>
          have hcount (rest : List String) : settings s ("--max-size" :: count :: rest) =
              settings { s with options := { s.options with maxMessageSize := max } } rest := by
            rw [settings, valid]
          exact (hcount _).trans (ih _)

/-! ### One document -/

/-- What is printed for a document, without the end of the line: its tree in extended JSON,
    in the style that was chosen. -/
def LineOf (s : Settings) (d : Document) (line : String) : Prop :=
  ∃ j, d.ExtendedAs j ∧ j.PrintedAs (if s.compact then .compact else .pretty) 0 line

theorem lineOf_iff {s : Settings} {d : Document} {line : String} :
    LineOf s d line ↔ line = render s d := by
  have htree : LineOf s d line ↔
      d.toJson.PrintedAs (if s.compact then .compact else .pretty) 0 line := by
    constructor
    · rintro ⟨j, hextended, hprinted⟩
      rw [← Document.extendedAs_iff.mp hextended]
      exact hprinted
    · exact fun hprinted => ⟨_, Document.extendedAs_iff.mpr rfl, hprinted⟩
  rw [htree, render]
  cases s.compact with
  | false => exact Json.printedAs_pretty_iff
  | true => exact Json.printedAs_compact_iff

/-- Short output is one line for each document: no other line ends are printed. -/
theorem visible_of_lineOf {s : Settings} {d : Document} {line : String}
    (hcompact : s.compact = true) (h : LineOf s d line) : Json.Visible line := by
  rw [lineOf_iff.mp h, render, if_pos hcompact]
  exact d.visible_compact

/-- What the bytes of a document stand for is printed as the document is. -/
theorem render_canonical (s : Settings) (d : Document) : render s d.canonical = render s d := by
  rw [render, render, d.toJson_canonical]

theorem pos_of_decode {bytes : List UInt8} {options : CodecOptions} {d : Document} {size : Nat}
    (h : Document.decode bytes options = .ok (d, size)) : 0 < size := by
  rcases Document.read_eq_ok.mp h with ⟨wire, _, _, _, rfl, _, hdenotes⟩
  exact Nat.lt_of_lt_of_le (Nat.succ_pos 3) (Document.four_le_length hdenotes)

/-- A document that is encoded by some bytes, in which all binaries look like what they are,
    and that fits the limit in force. -/
structure Fits (s : Settings) (d : KeyedDocument) (bytes : List UInt8) : Prop where
  unambiguous : d.Unambiguous
  encoded : ∃ options, d.encode options = .ok bytes
  limit : d.encodedSize ≤ s.options.maxMessageSize

namespace Fits

variable {s : Settings} {d : KeyedDocument} {bytes : List UInt8}

theorem size_eq (h : Fits s d bytes) : d.encodedSize = bytes.length := by
  rcases h.encoded with ⟨options, hencode⟩
  exact (Document.length_of_emit (Document.encode_eq_ok.mp hencode).2).symm

/-- The document is read whatever stands behind it. -/
theorem decode (h : Fits s d bytes) (rest : List UInt8) :
    Document.decode (bytes ++ rest) s.options = .ok (d.canonical, bytes.length) := by
  rcases h.encoded with ⟨options, hencode⟩
  have hemit := (Document.encode_eq_ok.mp hencode).2
  exact KeyedDocument.read_of_emit hemit h.unambiguous h.limit _ rest rfl

end Fits

/-! ### The loop -/

section

variable {s : Settings} {offset : Nat}

theorem documents_nil (steps : Nat) : documents s steps offset [] = ([], none) := by
  cases steps <;> rfl

theorem documents_error {steps : Nat} {bytes : List UInt8} {e : CodecError} (hne : bytes ≠ [])
    (hsteps : bytes.length ≤ steps) (h : Document.decode bytes s.options = .error e) :
    documents s steps offset bytes = ([], some (offset, e)) := by
  rcases List.exists_cons_of_ne_nil hne with ⟨b, rest, rfl⟩
  cases steps with
  | zero => cases hsteps
  | succ steps =>
      rw [documents, h]
      exact hne

/-- After a document the loop goes on where the document ends. -/
theorem documents_ok {steps : Nat} {bytes : List UInt8} {d : Document} {size : Nat}
    (h : Document.decode bytes s.options = .ok (d, size)) (hne : bytes ≠ []) :
    documents s (steps + 1) offset bytes =
      (render s d :: (documents s steps (offset + size) (bytes.drop size)).1,
        (documents s steps (offset + size) (bytes.drop size)).2) := by
  rcases List.exists_cons_of_ne_nil hne with ⟨b, rest, rfl⟩
  rw [documents, h]
  exact hne

/-- Every document takes a byte at least, so that as many steps as bytes are enough and the
    loop comes to an end for every input. -/
theorem documents_of_le {steps : Nat} : ∀ {offset : Nat} {bytes : List UInt8},
    bytes.length ≤ steps →
      documents s steps offset bytes = documents s bytes.length offset bytes := by
  induction steps using Nat.strong_induction_on with
  | h steps ih =>
      intro offset bytes hsteps
      by_cases hnil : bytes = []
      · rw [hnil, documents_nil, documents_nil]
      · cases hdecode : Document.decode bytes s.options with
        | error e =>
            rw [documents_error hnil hsteps hdecode, documents_error hnil le_rfl hdecode]
        | ok read =>
            rcases read with ⟨d, size⟩
            have hlength := List.length_pos_iff.mpr hnil
            -- A document has at least one byte, so both numbers of steps are enough for what is
            -- left.
            have hrest : (bytes.drop size).length < bytes.length := by
              have hsize := pos_of_decode hdecode
              rw [List.length_drop]
              omega
            rcases Nat.exists_eq_add_one_of_ne_zero (by omega : steps ≠ 0) with ⟨k, rfl⟩
            rcases Nat.exists_eq_add_one_of_ne_zero (by omega : bytes.length ≠ 0) with ⟨l, hl⟩
            rw [hl, documents_ok hdecode hnil, documents_ok hdecode hnil,
              ih k (by omega) (by omega), ih l (by omega) (by omega)]

/-- The documents in front of a stream are rendered in order, and the loop goes on behind
    them. -/
theorem documents_append {ds : List KeyedDocument} {chunks : List (List UInt8)}
    (h : List.Forall₂ (Fits s) ds chunks) (tail : List UInt8) : ∀ offset : Nat,
    documents s (chunks.flatten ++ tail).length offset (chunks.flatten ++ tail) =
      (ds.map (fun d : KeyedDocument => render s d) ++
          (documents s tail.length (offset + (ds.map fun d => d.encodedSize).sum) tail).1,
        (documents s tail.length (offset + (ds.map fun d => d.encodedSize).sum) tail).2) := by
  induction h with
  | nil => exact fun _ => rfl
  | @cons d chunk ds chunks hfits _ ih =>
      intro offset
      have hdecode := hfits.decode (chunks.flatten ++ tail)
      have hne : chunk ++ (chunks.flatten ++ tail) ≠ [] := by
        have hsize := pos_of_decode hdecode
        exact List.append_ne_nil_of_left_ne_nil (List.length_pos_iff.mp hsize) _
      have hstream : (chunk :: chunks).flatten ++ tail = chunk ++ (chunks.flatten ++ tail) := by
        rw [List.flatten_cons, List.append_assoc]
      have hsteps : (chunk ++ (chunks.flatten ++ tail)).length ≤
          (chunk ++ (chunks.flatten ++ tail)).length + 1 := Nat.le_succ _
      have hrest : (chunks.flatten ++ tail).length ≤
          (chunk ++ (chunks.flatten ++ tail)).length :=
        (List.suffix_append chunk _).length_le
      rw [hstream, ← documents_of_le hsteps, documents_ok hdecode hne, List.drop_left,
        documents_of_le hrest, ih, ← hfits.size_eq, List.map_cons, List.map_cons, List.sum_cons,
        Nat.add_assoc, render_canonical]
      rfl

end

/-! ### The command -/

/-- A run on encoded documents with bytes behind them prints the line of each document, in
    order. If nothing stands behind them it succeeds, and otherwise it complains about what
    stands there, at the sum of the sizes of the documents. -/
theorem run_stream (choices : List Choice) {ds : List KeyedDocument} {chunks : List (List UInt8)}
    (h : List.Forall₂ (Fits (chosen choices)) ds chunks) (tail : List UInt8) :
    ∃ texts : List String,
      List.Forall₂ (fun (d : KeyedDocument) => LineOf (chosen choices) d) ds texts ∧
      (tail = [] → run (choices.flatMap Choice.words) (chunks.flatten ++ tail) =
        ⟨String.join (texts.map (· ++ "\n")), "", 0⟩) ∧
      ∀ e, tail ≠ [] → Document.decode tail (chosen choices).options = .error e →
        run (choices.flatMap Choice.words) (chunks.flatten ++ tail) =
          ⟨String.join (texts.map (· ++ "\n")),
            s!"document at byte {(ds.map fun d => d.encodedSize).sum}: {e.message}\n", 1⟩ := by
  have hdocuments := documents_append h tail 0
  rw [Nat.zero_add] at hdocuments
  refine ⟨ds.map fun d : KeyedDocument => render (chosen choices) d, ?_, ?_⟩
  · exact List.forall₂_map_right_iff.mpr (List.forall₂_same.mpr fun d _ => lineOf_iff.mpr rfl)
  · unfold run
    rw [settings_words, ← chosen]
    dsimp only
    rw [hdocuments]
    constructor
    · rintro rfl
      rw [documents_nil, List.append_nil]
      rfl
    · intro e hne hdecode
      rw [documents_error hne le_rfl hdecode, List.append_nil]
      rfl

/-- Short output, and documents of at most 68 bytes. -/
def short : List Choice :=
  [.compact, .maxSize "68" 68 (by decide)]

/-- A document with values of several forms, and one without fields. The byte of the binary
    has a name, which is not how it was chosen. -/
def records : List KeyedDocument :=
  [⟨⟨[("n", .int32 1), ("x", .double ⟨0x3fe0000000000000⟩), ("t", .instant .epoch),
    ("b", .binary ⟨.userDefined 4, [1]⟩),
    ("a", .array [.string "\"", .document ⟨[]⟩])]⟩, by decide⟩, .empty]

def encodedRecords : List (List UInt8) :=
  [[68, 0, 0, 0, 16, 110, 0, 1, 0, 0, 0, 1, 120, 0, 0, 0, 0, 0, 0, 0, 224, 63, 9, 116, 0, 0, 0, 0,
    0, 0, 0, 0, 0, 5, 98, 0, 1, 0, 0, 0, 4, 1, 4, 97, 0, 22, 0, 0, 0, 2, 48, 0, 2, 0, 0, 0, 34, 0,
    3, 49, 0, 5, 0, 0, 0, 0, 0, 0], [5, 0, 0, 0, 0]]

/-- The first document in short output. -/
def shortLine : String :=
  "\x7b\"n\":1,\"x\":0.5,\"t\":\x7b\"$date\":\"1970-01-01T00:00:00.000Z\"\x7d," ++
    "\"b\":\x7b\"$binary\":\x7b\"base64\":\"AQ==\",\"subType\":\"04\"\x7d\x7d," ++
    "\"a\":[\"\\\"\",\x7b\x7d]\x7d"

/-- The same in long output. -/
def longLines : String :=
  "\x7b\n  \"n\": 1,\n  \"x\": 0.5,\n" ++
    "  \"t\": \x7b\n    \"$date\": \"1970-01-01T00:00:00.000Z\"\n  \x7d,\n" ++
    "  \"b\": \x7b\n    \"$binary\": \x7b\n" ++
    "      \"base64\": \"AQ==\",\n      \"subType\": \"04\"\n    \x7d\n  \x7d,\n" ++
    "  \"a\": [\n    \"\\\"\",\n    \x7b\x7d\n  ]\n\x7d"

theorem sizes_of_records : (records.map fun d => d.encodedSize) = [68, 5] := by
  with_unfolding_all rfl

theorem fits_records {s : Settings} (h : 68 ≤ s.options.maxMessageSize) :
    List.Forall₂ (Fits s) records encodedRecords := by
  rcases List.cons.inj sizes_of_records with ⟨hfirst, _⟩
  refine .cons ⟨by decide, ⟨{}, by with_unfolding_all rfl⟩, hfirst.trans_le h⟩
    (.cons ⟨by decide, ⟨{}, by rfl⟩, ?_⟩ .nil)
  exact Nat.le_trans (by decide : 5 ≤ 68) h

/-- The lines of the two documents. -/
theorem lines_of_records {s : Settings} {texts : List String}
    (h : List.Forall₂ (fun (d : KeyedDocument) => LineOf s d) records texts) :
    texts = [if s.compact then shortLine else longLines, "\x7b\x7d"] := by
  rcases h with _ | ⟨hfirst, _ | ⟨hsecond, _ | _⟩⟩
  rw [lineOf_iff.mp hfirst, lineOf_iff.mp hsecond, render, render]
  cases s.compact with
  | false => decide +kernel
  | true => decide +kernel

/-- Two documents and the beginning of a third one in short output, and the two documents in
    long output. -/
theorem run_records :
    run ["--compact", "--max-size", "68"] (encodedRecords.flatten ++ [8, 0]) =
        ⟨shortLine ++ "\n\x7b\x7d\n", "document at byte 73: unexpected end of input\n", 1⟩ ∧
      run [] encodedRecords.flatten = ⟨longLines ++ "\n\x7b\x7d\n", "", 0⟩ := by
  have hdecode : Document.decode [8, 0] (chosen short).options = .error .unexpectedEnd := by rfl
  rcases run_stream short (fits_records (by decide)) [8, 0] with ⟨texts, htexts, _, hfailed⟩
  rcases run_stream [] (fits_records (by decide)) [] with ⟨texts', htexts', hdone, _⟩
  rw [lines_of_records htexts, sizes_of_records] at hfailed
  rw [lines_of_records htexts', List.append_nil] at hdone
  refine ⟨(hfailed .unexpectedEnd (List.cons_ne_nil _ _) hdecode).trans ?_, (hdone rfl).trans ?_⟩
  · decide +kernel
  · decide +kernel

/-- Two bytes of users under the byte of general bytes: the reader looks for a second length
    there and finds the stream too short. And sixteen bytes of users under the byte of
    identifiers: what is printed is an identifier. -/
theorem mistaken_binaries :
    let general : KeyedDocument := ⟨⟨[("b", .binary ⟨.userDefined 0, [1, 2]⟩)]⟩, by decide⟩
    let identifier : KeyedDocument :=
      ⟨⟨[("b", .binary ⟨.userDefined 3, List.replicate 16 0⟩)]⟩, by decide⟩
    (∃ bytes, general.encode {} = .ok bytes ∧ bytes.length ≤ ({} : CodecOptions).maxMessageSize ∧
      run ["--compact"] bytes = ⟨"", "document at byte 0: unexpected end of input\n", 1⟩) ∧
    ∃ bytes, identifier.encode {} = .ok bytes ∧
      bytes.length ≤ ({} : CodecOptions).maxMessageSize ∧
      (run ["--compact"] bytes).output =
        "\x7b\"b\":\x7b\"$uuid\":\"00000000-0000-0000-0000-000000000000\"\x7d\x7d\n" ∧
      LineOf (chosen [.compact]) identifier ("\x7b\"b\":\x7b\"$binary\":" ++
        "\x7b\"base64\":\"AAAAAAAAAAAAAAAAAAAAAA==\",\"subType\":\"03\"\x7d\x7d\x7d") := by
  intro general identifier
  refine ⟨⟨[15, 0, 0, 0, 5, 98, 0, 2, 0, 0, 0, 0, 1, 2, 0], ?_, ?_, ?_⟩,
    [29, 0, 0, 0, 5, 98, 0, 16, 0, 0, 0, 3, 0, 0, 0, 0, 0, 0, 0, 0, 0, 0, 0, 0, 0, 0, 0, 0, 0],
    ?_, ?_, ?_, lineOf_iff.mpr ?_⟩
  · rfl
  · decide
  · decide +kernel
  · rfl
  · decide
  · decide +kernel
  · rfl

end DocumentMapper.Dump
