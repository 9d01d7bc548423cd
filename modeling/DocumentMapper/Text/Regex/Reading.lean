import DocumentMapper.Text.Regex.Footprint
import DocumentMapper.Text.Regex.Meaning
import DocumentMapper.Text.Regex.Pattern.Parser

/-!
# Reading expressions

An expression is read from a pattern. A text may be no pattern at all, a pattern may have
no meaning, and what it means may be too large.

## Main definitions

* `RegexError`: Why there is no expression.
* `Regex.ofText`: The expression that a text describes.
-/

namespace DocumentMapper

/-- Why a text does not describe an expression. -/
inductive RegexError where
  | malformed
  | oversized
deriving DecidableEq, Repr

/-- The expression that a text describes. -/
def Regex.ofText (text : String) : Except RegexError Regex :=
  match (RegexPattern.ofText? text).bind (Flags.regex? {}) with
  | some (r, _) => if r.isOversized then .error .oversized else .ok r
  | none => .error .malformed

end DocumentMapper
