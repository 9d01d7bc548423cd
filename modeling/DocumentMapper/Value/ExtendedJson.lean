import DocumentMapper.Json.Basic
import DocumentMapper.Text.Base64
import DocumentMapper.Text.Decimal
import DocumentMapper.Value.Document
import DocumentMapper.Value.Identifier

/-!
# Relaxed extended JSON

JSON has no dates, identifiers or binaries. In its extended form such a value is an
object with one or two members whose names begin with a dollar sign. The relaxed
form keeps the numbers and texts that JSON has; a double that is no number becomes
an object that names it.

## Main definitions

* `Value.toJson`, `Document.toJson`: The JSON tree of a value and of a document.
* `numberLayout`: How doubles are written in JSON.
-/

namespace DocumentMapper

/-- JSON numbers are positional from `0.00001` up to below `10 ^ 16`, keep a
    fraction, and show the sign of any exponent. -/
def numberLayout : Decimal.Layout where
  lowest := some (-5)
  highest := some 16
  plus := "+"
  keepsFraction := true
  tie := .even
  infinity := "Infinity"

/-- A finite double as a number, any other as an object that names it. -/
def Double.toJson (d : Double) : Json :=
  if d.isFinite then .number (numberLayout.render d)
  else .object [("$numberDouble", .string (numberLayout.render d))]

/-- The text of an integer. -/
def integerText (n : Int) : String :=
  if n < 0 then "-" ++ Nat.repr n.natAbs else Nat.repr n.natAbs

/-- A binary: its bytes and its subtype. -/
def Binary.toJson (b : Binary) : Json :=
  .object [("$binary", .object [("base64", .string (Base64.encode b.bytes)),
    ("subType", .string (Hex.encode [b.subtype.code]))])]

mutual

/-- The JSON tree of a value. -/
def Value.toJson : Value → Json
  | .null => .null
  | .boolean b => .bool b
  | .int32 n => .number (integerText n.toInt)
  | .int64 n => .number (integerText n.toInt)
  | .double d => d.toJson
  | .string s => .string s
  | .document d => d.toJson
  | .array items => .array (itemsToJson items)
  | .binary b => b.toJson
  | .uuid u => .object [("$uuid", .string u.text)]
  | .objectId id => .object [("$oid", .string id.hex)]
  | .instant t => .object [("$date", .string (t.iso .always "Z"))]
  | .pattern p => .object [("$regularExpression",
      .object [("pattern", .string p.source), ("options", .string p.options)])]
  | .code source => .object [("$code", .string source)]
  | .codeWithScope source scope => .object [("$code", .string source), ("$scope", scope.toJson)]
  | .minKey => .object [("$minKey", .number "1")]
  | .maxKey => .object [("$maxKey", .number "1")]

/-- The JSON tree of a document, its fields in order. -/
def Document.toJson : Document → Json
  | ⟨fields⟩ => .object (fieldsToJson fields)

/-- The JSON trees of a list of values. -/
def itemsToJson : List Value → List Json
  | [] => []
  | v :: rest => v.toJson :: itemsToJson rest

/-- The JSON trees of a list of fields. -/
def fieldsToJson : List (String × Value) → List (String × Json)
  | [] => []
  | (name, v) :: rest => (name, v.toJson) :: fieldsToJson rest

end

end DocumentMapper
