import DocumentMapper.Text.Decimal
import DocumentMapper.Text.Quoted
import DocumentMapper.Value.ElementType
import DocumentMapper.Value.ExtendedJson

/-!
# Diagnostic text of values

Messages that show a stored value name its form and put its contents in
parentheses; records show the names of their parts. Text is quoted, so that a
value can be told from its look-alikes.

## Main definitions

* `Value.diagnostic`: The text of a value in messages.
* `diagnosticLayout`: How doubles are written there.
* `plainLayout`: How doubles are written inside running text.
-/

namespace DocumentMapper

/-- Diagnostics write doubles positionally from `0.0001` up to below `10 ^ 16` and
    keep a fraction. -/
def diagnosticLayout : Decimal.Layout where
  lowest := some (-4)
  highest := some 16
  plus := ""
  keepsFraction := true
  tie := .up
  infinity := "inf"

/-- Running text writes every double positionally, whole numbers without a point. -/
def plainLayout : Decimal.Layout where
  lowest := none
  highest := none
  plus := ""
  keepsFraction := false
  tie := .up
  infinity := "inf"

/-- The name of a subtype; one of the users is shown with its code. -/
def BinarySubtype.name : BinarySubtype → String
  | general => "General"
  | function => "Function"
  | binaryOld => "BinaryOld"
  | uuidOld => "UuidOld"
  | uuid => "Uuid"
  | md5 => "Md5"
  | userDefined code => s!"UserDefined({code.toNat})"

/-- An identifier in messages. -/
def ObjectId.diagnostic (id : ObjectId) : String :=
  "ObjectId(" ++ Quoted.text id.hex ++ ")"

/-- A form: its name and its contents in parentheses. -/
def formText (name contents : String) : String :=
  name ++ "(" ++ contents ++ ")"

/-- Texts with commas between. -/
def commaSeparated (texts : List String) : String :=
  String.intercalate ", " texts

/-- A record: its name and its parts with their names. -/
def recordText (name : String) (parts : List (String × String)) : String :=
  name ++ " \x7b " ++ commaSeparated (parts.map fun part => part.1 ++ ": " ++ part.2) ++ " \x7d"

mutual

/-- The text of a value in messages: the name of its form, and its contents. -/
def Value.diagnostic : Value → String
  | .double d => formText "Double" (diagnosticLayout.render d)
  | .string s => formText "String" (Quoted.text s)
  | .document d => formText "Document" d.diagnostic
  | .array items => formText "Array" ("[" ++ commaSeparated (itemsDiagnostic items) ++ "]")
  | .binary b =>
    let bytes := b.bytes.map fun byte => Nat.repr byte.toNat
    let parts := [("subtype", b.subtype.name), ("bytes", "[" ++ commaSeparated bytes ++ "]")]
    formText "Binary" (recordText "Binary" parts)
  | .uuid u => formText "Uuid" u.text
  | .objectId id => formText "ObjectId" id.diagnostic
  | .boolean b => formText "Boolean" (if b then "true" else "false")
  | .instant t => formText "DateTime" (t.iso .ifNonzero "Z")
  | .null => "Null"
  | .pattern p =>
    let parts := [("pattern", Quoted.text p.source), ("options", Quoted.text p.options)]
    formText "RegularExpression" (recordText "Regex" parts)
  | .code source => formText "JavaScriptCode" (Quoted.text source)
  | .codeWithScope source scope =>
    let parts := [("code", Quoted.text source), ("scope", scope.diagnostic)]
    formText "JavaScriptCodeWithScope" (recordText "CodeWithScope" parts)
  | .int32 n => formText "Int32" (integerText n.toInt)
  | .int64 n => formText "Int64" (integerText n.toInt)
  | .minKey => "MinKey"
  | .maxKey => "MaxKey"

/-- The text of a document in messages. -/
def Document.diagnostic : Document → String
  | ⟨fields⟩ =>
    let body := "\x7b" ++ commaSeparated (fieldsDiagnostic fields) ++ "\x7d"
    recordText "Document" [("inner", body)]

/-- The texts of a list of values. -/
def itemsDiagnostic : List Value → List String
  | [] => []
  | v :: rest => v.diagnostic :: itemsDiagnostic rest

/-- The texts of a list of fields. -/
def fieldsDiagnostic : List (String × Value) → List String
  | [] => []
  | (name, v) :: rest => (Quoted.text name ++ ": " ++ v.diagnostic) :: fieldsDiagnostic rest

end

end DocumentMapper
