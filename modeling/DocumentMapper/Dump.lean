import DocumentMapper.Value.ExtendedJson
import DocumentMapper.Wire.Reader

/-!
# Dumping a stream of documents

The dump command reads documents that stand one after another and prints each as
JSON. It stops at the first bytes that are no document and says where they begin.

## Main definitions

* `Dump.Settings`: What the arguments choose.
* `Dump.settings`: The settings of an argument list, or the complaint.
* `Dump.documents`: The renderings of a stream, and the failure that ended it.
* `Dump.run`: The whole command.
-/

namespace DocumentMapper.Dump

/-- What the arguments of the command choose. -/
structure Settings where
  options : CodecOptions := {}
  compact : Bool := false

/-- What a run of the command leaves: its two outputs and its exit code. -/
structure Outcome where
  output : String
  complaint : String
  code : Nat
deriving DecidableEq, Repr

/-- The number that decimal digits stand for, read on from `n`. -/
def readDigits (n : Nat) : List Char → Option Nat
  | [] => some n
  | c :: rest => if c.isDigit then readDigits (n * 10 + (c.toNat - 48)) rest else none

/-- A byte count: digits, perhaps behind a plus sign, within 64 bits. -/
def byteCount? (text : String) : Option Nat :=
  let digits := match text.toList with
    | '+' :: rest => rest
    | all => all
  if digits.isEmpty then none
  else (readDigits 0 digits).filter (· < UInt64.size)

/-- The settings of an argument list, or the complaint about it. -/
def settings (s : Settings) : List String → Except String Settings
  | [] => .ok s
  | "--compact" :: rest => settings { s with compact := true } rest
  | ["--max-size"] => .error "--max-size expects a byte count"
  | "--max-size" :: count :: rest =>
    match byteCount? count with
    | some max => settings { s with options := { s.options with maxMessageSize := max } } rest
    | none => .error "--max-size expects a byte count"
  | other :: _ => .error s!"Unknown argument: {other}"

/-- A document as JSON. -/
def render (s : Settings) (d : Document) : String :=
  if s.compact then d.toJson.compact else d.toJson.pretty

/-- The renderings of the documents of a stream whose next byte stands at `offset`, and
    the failure that ended it with its place. Every document takes a byte at least, so
    as many steps as there are bytes suffice. -/
def documents (s : Settings) : Nat → Nat → List UInt8 → List String × Option (Nat × CodecError)
  | 0, _, _ => ([], none)
  | _, _, [] => ([], none)
  | steps + 1, offset, bytes =>
    match Document.decode bytes s.options with
    | .error e => ([], some (offset, e))
    | .ok (d, size) =>
      let (lines, failure) := documents s steps (offset + size) (bytes.drop size)
      (render s d :: lines, failure)

/-- Lines as one text, each with its end. -/
def lines (texts : List String) : String :=
  String.join (texts.map (· ++ "\n"))

/-- The command: its arguments and its input. -/
def run (arguments : List String) (input : List UInt8) : Outcome :=
  match settings {} arguments with
  | .error complaint => ⟨"", complaint ++ "\n", 2⟩
  | .ok s =>
    match documents s input.length 0 input with
    | (texts, none) => ⟨lines texts, "", 0⟩
    | (texts, some (offset, e)) =>
      ⟨lines texts, s!"document at byte {offset}: {e.message}\n", 1⟩

end DocumentMapper.Dump
